import ChatMarkup.Document.Reader
import ChatMarkup.Proofs.OpenItems

/-!
Byte order marks that a page loses while it is read in pieces: those that happen to stand at the
beginning of a piece.
-/

namespace ChatMarkup.Document.Cursor

def pass (text : List Char) (cursor : Cursor) : Cursor :=
  text.foldl (fun cursor char => (cursor.move char).cursor) cursor

/-- A mark stands at the beginning of a piece. -/
def losesMark : List Char → Cursor → Bool
  | [], _ => false
  | char :: rest, cursor =>
    (char == byteOrderMark && (cursor.move char).begins) || losesMark rest (cursor.move char).cursor

def kept : List Char → Cursor → List Char
  | [], _ => []
  | char :: rest, cursor =>
    if char = byteOrderMark && (cursor.move char).begins then kept rest (cursor.move char).cursor
    else char :: kept rest (cursor.move char).cursor

theorem pass_append (left right : List Char) (cursor : Cursor) :
    cursor.pass (left ++ right) = (cursor.pass left).pass right :=
  List.foldl_append

/-- Characters that fit into the rest of a block lead towards its end. -/
theorem pass_replicate {char : Char} {count left : Nat} (fits : count * char.utf8Size ≤ left) :
    pass (List.replicate count char) ⟨left, none⟩ = ⟨left - count * char.utf8Size, none⟩ := by
  induction count generalizing left with
  | zero => simp [pass]
  | succ count induction =>
      rw [Nat.succ_mul] at fits
      have moved : move char ⟨left, none⟩ = ⟨⟨left - char.utf8Size, none⟩, false⟩ :=
        if_pos (Nat.le_trans (Nat.le_add_left _ _) fits)
      have rest := induction (Nat.le_sub_of_add_le fits)
      rw [pass] at rest
      rw [pass, List.replicate_succ, List.foldl_cons, moved, rest, Nat.succ_mul]
      congr 1
      omega

theorem losesMark_append (left right : List Char) (cursor : Cursor) :
    cursor.losesMark (left ++ right) =
      (cursor.losesMark left || (cursor.pass left).losesMark right) := by
  induction left generalizing cursor with
  | nil => rfl
  | cons char rest induction =>
      rw [List.cons_append, losesMark, losesMark, induction, Bool.or_assoc]
      rfl

theorem kept_append (left right : List Char) (cursor : Cursor) :
    cursor.kept (left ++ right) = cursor.kept left ++ (cursor.pass left).kept right := by
  induction left generalizing cursor with
  | nil => rfl
  | cons char rest induction =>
      rw [List.cons_append, kept, kept, induction]
      split <;> rfl

theorem kept_sublist (text : List Char) (cursor : Cursor) : (cursor.kept text).Sublist text := by
  induction text generalizing cursor with
  | nil => exact .slnil
  | cons char rest induction =>
      rw [kept]
      split
      · exact (induction _).cons char
      · exact (induction _).cons_cons char

theorem kept_eq_self {text : List Char} {cursor : Cursor} (loses : cursor.losesMark text = false) :
    cursor.kept text = text := by
  induction text generalizing cursor with
  | nil => rfl
  | cons char rest induction =>
      rw [losesMark, Bool.or_eq_false_iff] at loses
      have stays : ¬ (char = byteOrderMark && (cursor.move char).begins) = true := by
        simpa [beq_eq_decide] using loses.1
      rw [kept, if_neg stays, induction loses.2]

theorem losesMark_of_free {text : List Char} (free : byteOrderMark ∉ text) (cursor : Cursor) :
    cursor.losesMark text = false := by
  induction text generalizing cursor with
  | nil => rfl
  | cons char rest induction =>
      rw [List.mem_cons, not_or] at free
      rw [losesMark, induction free.2, beq_eq_false_iff_ne.mpr (Ne.symm free.1)]
      rfl

/-- Some mark is missing from what is kept. -/
theorem count_kept_lt {text : List Char} {cursor : Cursor} (loses : cursor.losesMark text = true) :
    (cursor.kept text).count byteOrderMark < text.count byteOrderMark := by
  induction text generalizing cursor with
  | nil => cases loses
  | cons char rest induction =>
      rw [losesMark, Bool.or_eq_true] at loses
      rw [kept]
      split
      · rename_i lost
        have isMark : char = byteOrderMark := by
          simp only [Bool.and_eq_true, decide_eq_true_eq] at lost
          exact lost.1
        have fewer := (kept_sublist rest (cursor.move char).cursor).count_le byteOrderMark
        subst isMark
        rw [List.count_cons_self]
        exact Nat.lt_succ_of_le fewer
      · rename_i stays
        have later := loses.resolve_left (by simpa [beq_eq_decide] using stays)
        rw [List.count_cons, List.count_cons]
        exact Nat.add_lt_add_right (induction later) _

/-! ## Items -/

def keptItems (name : String) : List (List Char) → Cursor → List (List Char)
  | [], _ => []
  | text :: rest, cursor =>
    let opened := cursor.pass (Node.startTag name)
    opened.kept text :: keptItems name rest (opened.pass text)

theorem keptItems_append (name : String) (left right : List (List Char)) (cursor : Cursor) :
    cursor.keptItems name (left ++ right) =
      cursor.keptItems name left ++
        (cursor.pass (openItems name left)).keptItems name right := by
  induction left generalizing cursor with
  | nil => rfl
  | cons text rest induction =>
      rw [List.cons_append, keptItems, keptItems, induction, openItems_cons, pass_append,
        pass_append]
      rfl

theorem mark_notMem_startTag {name : String} (plain : PlainName name.toList) :
    byteOrderMark ∉ Node.startTag name := by
  rcases plain.exists_cons with ⟨initial, rest, named, -, plainChars⟩
  rw [Node.startTag, named, List.mem_cons, List.mem_append, List.mem_singleton, not_or, not_or]
  refine ⟨by decide, ?_, by decide⟩
  intro member
  exact ne_of_isPlainChar (plainChars _ member) (by decide) rfl

theorem keptItems_eq_self {name : String} {texts : List (List Char)} {cursor : Cursor}
    (loses : cursor.losesMark (openItems name texts) = false) :
    keptItems name texts cursor = texts := by
  induction texts generalizing cursor with
  | nil => rfl
  | cons text rest induction =>
      rw [openItems_cons, losesMark_append, losesMark_append, Bool.or_eq_false_iff,
        Bool.or_eq_false_iff] at loses
      rw [keptItems, kept_eq_self loses.2.1, induction loses.2.2]

theorem kept_openItems {name : String} (plain : PlainName name.toList)
    (texts : List (List Char)) (cursor : Cursor) :
    cursor.kept (openItems name texts) = openItems name (keptItems name texts cursor) := by
  induction texts generalizing cursor with
  | nil => rfl
  | cons text rest induction =>
      have tagKept : cursor.kept (Node.startTag name) = Node.startTag name :=
        kept_eq_self (losesMark_of_free (mark_notMem_startTag plain) cursor)
      rw [keptItems, openItems_cons, openItems_cons, kept_append, kept_append, tagKept, induction]

theorem count_openItems {name : String} (plain : PlainName name.toList)
    (texts : List (List Char)) :
    (openItems name texts).count byteOrderMark = texts.flatten.count byteOrderMark := by
  induction texts with
  | nil => rfl
  | cons text rest induction =>
      rw [openItems_cons, List.count_append, List.count_append, induction,
        List.count_eq_zero_of_not_mem (mark_notMem_startTag plain), Nat.zero_add,
        List.flatten_cons, List.count_append]

/-- Of the marks in the items some are missing from what is kept. -/
theorem count_keptItems_lt {name : String} (plain : PlainName name.toList)
    {texts : List (List Char)} {cursor : Cursor}
    (loses : cursor.losesMark (openItems name texts) = true) :
    (keptItems name texts cursor).flatten.count byteOrderMark <
      texts.flatten.count byteOrderMark := by
  have fewer := count_kept_lt loses
  rwa [kept_openItems plain, count_openItems plain, count_openItems plain] at fewer

end ChatMarkup.Document.Cursor
