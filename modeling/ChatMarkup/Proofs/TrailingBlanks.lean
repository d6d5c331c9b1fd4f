import Mathlib.Data.List.TakeWhile
import ChatMarkup.Proofs.Ink
import ChatMarkup.Rule

/-!
White space at the end of a text: what trimming makes of it, and why a paragraph does not show it.
-/

namespace ChatMarkup.Text

/-! ## Trimming -/

section Drop

variable {drop : Char → Bool}

theorem trimEndWhere_eq_nil {text : List Char} (dropped : ∀ char ∈ text, drop char = true) :
    trimEndWhere drop text = [] := by
  induction text with
  | nil => rfl
  | cons char rest induction =>
      rw [List.forall_mem_cons] at dropped
      rw [trimEndWhere, induction dropped.2]
      exact if_pos dropped.1

/-- Trimming stops at a character that is kept. -/
theorem trimEndWhere_append_cons (front : List Char) {last : Char} (kept : drop last = false)
    (tail : List Char) :
    trimEndWhere drop (front ++ last :: tail) = front ++ last :: trimEndWhere drop tail := by
  induction front with
  | nil =>
      rw [List.nil_append, trimEndWhere]
      split
      · rename_i empty
        rw [empty, kept]
        rfl
      · rfl
  | cons char front induction =>
      rw [List.cons_append, trimEndWhere, induction]
      cases front <;> rfl

theorem trimEndWhere_append_dropped (text : List Char) {tail : List Char}
    (dropped : ∀ char ∈ tail, drop char = true) :
    trimEndWhere drop (text ++ tail) = trimEndWhere drop text := by
  induction text with
  | nil => exact trimEndWhere_eq_nil dropped
  | cons char rest induction =>
      rw [List.cons_append, trimEndWhere, trimEndWhere, induction]

/-- Either everything is dropped, or some character is the last one that is kept. -/
theorem all_dropped_or_last_kept (text : List Char) :
    (∀ char ∈ text, drop char = true) ∨
      ∃ front last tail, text = front ++ last :: tail ∧ drop last = false ∧
        ∀ char ∈ tail, drop char = true := by
  induction text with
  | nil => exact .inl (by simp)
  | cons char rest induction =>
      rcases induction with dropped | ⟨front, last, tail, rfl, kept, dropped⟩
      · cases first : drop char with
        | false => exact .inr ⟨[], char, rest, rfl, first, dropped⟩
        | true =>
            left
            rw [List.forall_mem_cons]
            exact ⟨first, dropped⟩
      · exact .inr ⟨char :: front, last, tail, rfl, kept, dropped⟩

/-- A text is what trimming leaves of it and a tail that is dropped. -/
theorem exists_trimEndWhere_append (text : List Char) :
    ∃ tail, text = trimEndWhere drop text ++ tail ∧ ∀ char ∈ tail, drop char = true := by
  rcases @all_dropped_or_last_kept drop text with dropped | ⟨front, last, tail, rfl, kept, dropped⟩
  · refine ⟨text, ?_, dropped⟩
    rw [trimEndWhere_eq_nil dropped]
    rfl
  · refine ⟨tail, ?_, dropped⟩
    rw [trimEndWhere_append_cons front kept, trimEndWhere_eq_nil dropped, List.append_assoc]
    rfl

theorem trimEndWhere_eq_self {text : List Char} (ends : text.getLast?.any drop = false) :
    trimEndWhere drop text = text := by
  rcases List.eq_nil_or_concat text with rfl | ⟨front, last, rfl⟩
  · rfl
  · rw [List.concat_eq_append] at ends ⊢
    rw [List.getLast?_concat] at ends
    exact trimEndWhere_append_cons front ends []

theorem trimWhere_eq_self {text : List Char} (starts : text.head?.any drop = false)
    (ends : text.getLast?.any drop = false) : trimWhere drop text = text := by
  have startKept : text.dropWhile drop = text := by
    cases text with
    | nil => rfl
    | cons char rest => exact List.dropWhile_cons_of_neg (Bool.eq_false_iff.mp starts)
  rw [trimWhere, startKept, trimEndWhere_eq_self ends]

theorem trimWhere_append_dropped (text : List Char) {tail : List Char}
    (dropped : ∀ char ∈ tail, drop char = true) :
    trimWhere drop (text ++ tail) = trimWhere drop text := by
  rw [trimWhere, List.dropWhile_append, trimWhere]
  split
  · rename_i empty
    rw [List.isEmpty_iff.mp empty, List.dropWhile_eq_nil_iff.mpr dropped]
  · exact trimEndWhere_append_dropped _ dropped

theorem trimWhere_dropped_append {front : List Char} (dropped : ∀ char ∈ front, drop char = true)
    (text : List Char) : trimWhere drop (front ++ text) = trimWhere drop text := by
  rw [trimWhere, List.dropWhile_append_of_pos dropped, trimWhere]

theorem dropWhile_append_cons (front : List Char) {char : Char} (kept : drop char = false)
    (tail : List Char) :
    (front ++ char :: tail).dropWhile drop = front.dropWhile drop ++ char :: tail := by
  rw [List.dropWhile_append]
  split
  · rename_i empty
    rw [List.isEmpty_iff.mp empty, List.nil_append]
    exact List.dropWhile_cons_of_neg (Bool.eq_false_iff.mp kept)
  · rfl

theorem trimWhere_append_cons (front : List Char) {char : Char} (kept : drop char = false)
    (tail : List Char) :
    trimWhere drop (front ++ char :: tail) =
      front.dropWhile drop ++ char :: trimEndWhere drop tail := by
  rw [trimWhere, dropWhile_append_cons front kept]
  exact trimEndWhere_append_cons _ kept tail

theorem getLast?_trimEndWhere (text : List Char) :
    (trimEndWhere drop text).getLast?.any drop = false := by
  rcases @all_dropped_or_last_kept drop text with dropped | ⟨front, last, tail, rfl, kept, dropped⟩
  · rw [trimEndWhere_eq_nil dropped]
    rfl
  · rw [trimEndWhere_append_cons front kept, trimEndWhere_eq_nil dropped, List.getLast?_concat]
    exact kept

theorem head?_trimWhere (text : List Char) : (trimWhere drop text).head?.any drop = false := by
  have stopped := List.head?_dropWhile_not drop text
  rw [trimWhere]
  cases left : text.dropWhile drop with
  | nil => rfl
  | cons first rest =>
      rw [left] at stopped
      have whole := trimEndWhere_append_cons [] stopped rest
      rw [List.nil_append] at whole
      rw [whole]
      exact stopped

end Drop

theorem trimEndWhere_sublist (drop : Char → Bool) (text : List Char) :
    (trimEndWhere drop text).Sublist text := by
  rcases @exists_trimEndWhere_append drop text with ⟨tail, whole, -⟩
  conv => rhs; rw [whole]
  exact List.sublist_append_left _ tail

theorem isInfix_trimWhere (drop : Char → Bool) (text : List Char) :
    trimWhere drop text <:+: text := by
  rcases @exists_trimEndWhere_append drop (text.dropWhile drop) with ⟨tail, whole, -⟩
  have front : trimWhere drop text <+: text.dropWhile drop := ⟨tail, whole.symm⟩
  exact front.isInfix.trans (List.dropWhile_suffix drop).isInfix

theorem trim_sublist (text : List Char) : (trim text).Sublist text :=
  (trimEndWhere_sublist isBlank _).trans (List.dropWhile_sublist isBlank)

theorem trim_append_blank (text : List Char) {tail : List Char}
    (blank : ∀ char ∈ tail, isBlank char = true) : trim (text ++ tail) = trim text :=
  trimWhere_append_dropped text blank

/-- The two ends of a text are trimmed apart from each other if a character between them is kept. -/
theorem trim_append_cons (front : List Char) {kept : Char} (inked : isBlank kept = false)
    (tail : List Char) : trim (front ++ kept :: tail) = trimStart front ++ kept :: trimEnd tail :=
  trimWhere_append_cons front inked tail

theorem trim_eq_self {page : List Char} (starts : page.head?.any isBlank = false)
    (ends : page.getLast?.any isBlank = false) : trim page = page :=
  trimWhere_eq_self starts ends

/-- What begins and ends with the brackets of tags has nothing to trim. -/
theorem trim_bracketed (inner : List Char) :
    trim ('<' :: (inner ++ ['>'])) = '<' :: (inner ++ ['>']) := by
  apply trim_eq_self
  · exact (by decide : isBlank '<' = false)
  · rw [← List.cons_append, List.getLast?_concat]
    decide

theorem trim_trim (text : List Char) : trim (trim text) = trim text :=
  trim_eq_self (head?_trimWhere text) (getLast?_trimEndWhere _)

/-! ## Paragraphs -/

/-- No break is ahead beyond a character that is not blank. -/
theorem breakAhead_append_cons (front : List Char) {last : Char} (kept : isBlank last = false)
    (tail : List Char) : breakAhead (front ++ last :: tail) = breakAhead (front ++ [last]) := by
  induction front with
  | nil =>
      simp only [List.nil_append, breakAhead, kept, Bool.false_and]
  | cons char front induction =>
      rw [List.cons_append, List.cons_append, breakAhead, breakAhead, induction]

theorem collapseBreaks_append_cons (front : List Char) {last : Char}
    (kept : isBlank last = false) (tail : List Char) :
    collapseBreaks (front ++ last :: tail) =
      collapseBreaks (front ++ [last]) ++ collapseBreaks tail := by
  induction front with
  | nil => simp [collapseBreaks, kept]
  | cons char front induction =>
      rw [List.cons_append, List.cons_append, collapseBreaks, collapseBreaks,
        breakAhead_append_cons front kept tail, induction]
      split <;> rfl

theorem capBlankLinesAfter_append (seen : Nat) (left right : List Char) :
    ∃ before, capBlankLinesAfter seen (left ++ right) =
      capBlankLinesAfter seen left ++ capBlankLinesAfter before right := by
  induction left generalizing seen with
  | nil => exact ⟨seen, rfl⟩
  | cons char rest induction =>
      rw [List.cons_append, capBlankLinesAfter, capBlankLinesAfter]
      split
      · split
        · rcases induction (seen + 1) with ⟨before, whole⟩
          exact ⟨before, by rw [whole]; rfl⟩
        · exact induction seen
      · rcases induction 0 with ⟨before, whole⟩
        exact ⟨before, by rw [whole]; rfl⟩

theorem trim_eq_nil {text : List Char} (blank : ∀ char ∈ text, isBlank char = true) :
    trim text = [] :=
  trim_append_blank [] blank

/-- Behind the last character that is not blank, a paragraph has nothing but blanks to trim. -/
theorem trim_collapseInner_append_cons (front : List Char) {last : Char}
    (kept : isBlank last = false) {tail : List Char}
    (blank : ∀ char ∈ tail, isBlank char = true) :
    trim (collapseInner (front ++ last :: tail)) = trim (collapseInner (front ++ [last])) := by
  rcases capBlankLinesAfter_append 0 (collapseBreaks (front ++ [last])) (collapseBreaks tail) with
    ⟨before, whole⟩
  rw [collapseInner, capBlankLines, collapseBreaks_append_cons front kept, whole]
  apply trim_append_blank
  apply ink_eq_nil_iff.mp
  rw [ink_capBlankLinesAfter, ink_collapseBreaks, ink_eq_nil_iff.mpr blank]

theorem trim_collapseInner_append_blank (text : List Char) {tail : List Char}
    (blank : ∀ char ∈ tail, isBlank char = true) :
    trim (collapseInner (text ++ tail)) = trim (collapseInner text) := by
  rcases @all_dropped_or_last_kept isBlank text with
    allBlank | ⟨front, last, rest, rfl, kept, restBlank⟩
  · have nothing : ∀ spaces : List Char, (∀ char ∈ spaces, isBlank char = true) →
        trim (collapseInner spaces) = [] := by
      intro spaces spacesBlank
      apply trim_eq_nil
      apply ink_eq_nil_iff.mp
      rw [ink_collapseInner, ink_eq_nil_iff.mpr spacesBlank]
    rw [nothing text allBlank, nothing]
    exact List.forall_mem_append.mpr ⟨allBlank, blank⟩
  · rw [List.append_assoc, List.cons_append,
      trim_collapseInner_append_cons front kept (List.forall_mem_append.mpr ⟨restBlank, blank⟩),
      trim_collapseInner_append_cons front kept restBlank]

end ChatMarkup.Text

/-- A paragraph is trimmed, so that white space at its end makes no difference. -/
theorem ChatMarkup.Rule.apply_paragraph_append_blank (text : List Char) {tail : List Char}
    (blank : ∀ char ∈ tail, Text.isBlank char = true) :
    apply (text ++ tail) .paragraph = apply text .paragraph := by
  rw [apply, apply, Text.trim_collapseInner_append_blank text blank]
