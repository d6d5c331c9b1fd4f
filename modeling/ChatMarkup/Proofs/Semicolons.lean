import ChatMarkup.Proofs.EscapeRoundTrip
import ChatMarkup.Proofs.ReaderEffects
import ChatMarkup.Proofs.UnknownTags

/-!
Where the semicolons of a message come from. None of the stages between a page and its message adds
one, as long as references are not decoded and the page is not completed: what is written again in
the course of completing it has references in the stead of some characters, and each of them ends
with a semicolon.
-/

namespace ChatMarkup

open Text

/-! ## Preparing a page -/

namespace Source

section Hidden

variable {anyCase : Bool} {name source after : List Char}

theorem afterEndTag?_suffix (found : afterEndTag? anyCase name source = some after) :
    after <:+ source := by
  rw [afterEndTag?] at found
  split at found
  · cases found
  · rename_i rest named
    split at found
    · rename_i tail trimmed
      cases found
      have dropped := @List.dropWhile_suffix _ rest isBlank
      rw [← trimStart, trimmed] at dropped
      exact ((List.suffix_cons '>' after).trans dropped).trans (afterName?_suffix named)
    · cases found

theorem afterBody?_suffix (found : afterBody? anyCase name source = some after) :
    after <:+ source := by
  induction source with
  | nil => cases found
  | cons char rest induction =>
      rw [afterBody?] at found
      split at found
      · rename_i ended
        cases found
        exact afterEndTag?_suffix ended
      · exact (induction found).trans (List.suffix_cons char rest)

theorem afterHidden?_suffix (found : afterHidden? anyCase source = some after) :
    after <:+ source := by
  rcases List.exists_of_findSome?_eq_some found with ⟨name, -, element⟩
  rw [afterElement?] at element
  split at element
  · cases element
  · rename_i body started
    exact (afterBody?_suffix element).trans (afterStartTag?_suffix started)

theorem removeHiddenWhere_sublist (anyCase : Bool) (source : List Char) :
    (removeHiddenWhere anyCase source).Sublist source := by
  fun_induction removeHiddenWhere anyCase source with
  | case1 => exact List.Sublist.slnil
  | case2 char rest after found induction =>
      exact induction.trans (afterHidden?_suffix found).sublist
  | case3 char rest absent induction => exact induction.cons_cons char

end Hidden

theorem splitName?_eq_some {stretch name afterName : List Char}
    (split : splitName? stretch = some (name, afterName)) :
    stretch = name ++ afterName ∧ ∀ char ∈ name, isTagNameChar char = true := by
  cases stretch with
  | nil => cases split
  | cons char rest =>
      rw [splitName?] at split
      split at split
      · rw [List.span_eq_takeWhile_dropWhile, Option.some.injEq, Prod.mk.injEq] at split
        rcases split with ⟨rfl, rfl⟩
        exact ⟨(List.takeWhile_append_dropWhile).symm, fun char => List.mem_takeWhile_imp⟩
      · cases split

theorem splitSlash?_eq_some {afterName attributes after : List Char}
    (split : splitSlash? afterName = some (attributes, after)) :
    afterName = attributes ++ '/' :: '>' :: after := by
  rw [splitSlash?, List.span_eq_takeWhile_dropWhile] at split
  split at split
  · rename_i inside bracket tail spanned
    rw [Prod.mk.injEq] at spanned
    by_cases slashed : (inside.getLast? == some '/' && inside.dropLast.head?.all isBlank) = true
    · rw [if_pos slashed, Option.some.injEq, Prod.mk.injEq] at split
      rcases split with ⟨rfl, rfl⟩
      rw [Bool.and_eq_true, beq_iff_eq] at slashed
      have whole := @List.takeWhile_append_dropWhile _ (· != '>') afterName
      have last := List.dropLast_append_getLast? '/' slashed.1
      have closes : bracket = '>' := by
        have stopped := List.head?_dropWhile_not (· != '>') afterName
        rw [spanned.2] at stopped
        simpa using stopped
      rw [← whole, spanned.1, spanned.2, ← last, closes]
      simp
    · rw [if_neg slashed] at split
      cases split
  · cases split

/-- The name of a tag is written twice when the tag is expanded, but it holds no semicolon. -/
theorem count_expandStretch_le (stretch : List Char) :
    (expandStretch stretch).count ';' ≤ stretch.count ';' := by
  have kept : ('<' :: stretch).count ';' = stretch.count ';' := List.count_cons_of_ne (by decide)
  rw [expandStretch]
  split
  · exact Nat.le_of_eq kept
  · rename_i name afterName named
    split
    · exact Nat.le_of_eq kept
    · rename_i attributes after slashed
      rcases splitName?_eq_some named with ⟨rfl, nameChars⟩
      have free : ';' ∉ name := fun member => absurd (nameChars _ member) (by decide)
      have trimmed := (trimEndWhere_sublist isBlank attributes).count_le ';'
      have noneInName := List.count_eq_zero_of_not_mem free
      rw [splitSlash?_eq_some slashed, openTag, trimEnd]
      split <;>
        simp only [List.count_append, List.count_cons, List.count_nil, noneInName,
          (by decide : "></".toList.count ';' = 0)] <;>
        simp <;> omega

theorem count_expandSelfClosing_le (source : List Char) :
    (expandSelfClosing source).count ';' ≤ source.count ';' := by
  have stretches (pieces : List (List Char)) :
      (pieces.flatMap expandStretch).count ';' ≤ (pieces.flatMap ('<' :: ·)).count ';' := by
    induction pieces with
    | nil => exact Nat.le_refl 0
    | cons piece rest induction =>
        have first := count_expandStretch_le piece
        rw [List.flatMap_cons, List.flatMap_cons, List.count_append, List.count_append,
          List.count_cons_of_ne (by decide)]
        exact Nat.add_le_add first induction
  rcases splitAtChar_eq_cons '<' source with ⟨plain, pieces, split⟩
  have joined := joinWithChar_splitAtChar '<' source
  rw [split, joinWithChar_cons_eq_flatMap] at joined
  rw [expandSelfClosing, split, ← joined, List.count_append, List.count_append]
  exact Nat.add_le_add_left (stretches pieces) _

end Source

theorem count_prepare_le (options : Options) (page : List Char) :
    (prepare options (trim page)).count ';' ≤ page.count ';' :=
  Nat.le_trans (Source.count_expandSelfClosing_le _)
    (((Source.removeHiddenWhere_sublist _ _).trans (trim_sublist page)).count_le ';')

/-! ## Reading a page -/

namespace Node

def countIn (options : Options) (char : Char) (nodes : List Node) : Nat :=
  (allTexts options nodes).count char

variable {options : Options} {char : Char}

@[simp] theorem countIn_nil : countIn options char [] = 0 := rfl

@[simp] theorem countIn_cons (node : Node) (rest : List Node) :
    countIn options char (node :: rest) =
      (node.texts options).count char + countIn options char rest := by
  rw [countIn, allTexts, List.count_append, countIn]

@[simp] theorem countIn_append (left right : List Node) :
    countIn options char (left ++ right) = countIn options char left + countIn options char right := by
  induction left with
  | nil => simp
  | cons node rest induction => rw [List.cons_append, countIn_cons, induction, countIn_cons,
      Nat.add_assoc]

@[simp] theorem countIn_reverse (nodes : List Node) :
    countIn options char nodes.reverse = countIn options char nodes := by
  induction nodes with
  | nil => rfl
  | cons node rest induction => simp [induction, Nat.add_comm]

end Node

namespace Markup

namespace Reader

def kept (reader : Reader) : List Node := reader.stack.flatMap (·.children) ++ reader.top

section Counting

variable {options : Options} {char : Char}

theorem kept_goTo (phase : Phase) (reader : Reader) : (reader.goTo phase).kept = reader.kept := rfl

theorem kept_add (node : Node) (reader : Reader) : (reader.add node).kept = node :: reader.kept := by
  rw [add]
  split <;> rename_i stack <;> simp [kept, stack]

theorem countIn_toNode (element : OpenElement) (inner : List Node) :
    ((element.toNode inner).texts options).count char =
      Node.countIn options char inner + Node.countIn options char element.children := by
  rw [OpenElement.toNode, Node.texts, ← Node.countIn, Node.countIn_reverse, Node.countIn_append]

theorem countIn_close (reader : Reader) :
    Node.countIn options char reader.close.kept = Node.countIn options char reader.kept := by
  rw [close]
  split
  · rfl
  · rename_i element outer stack
    rw [kept_add, Node.countIn_cons, countIn_toNode]
    simp [kept, stack]

theorem countIn_closeNamed (name : String) (reader : Reader) :
    Node.countIn options char (reader.closeNamed name).kept =
      Node.countIn options char reader.kept := by
  rw [closeNamed]
  split
  · rfl
  · split
    · exact countIn_close reader
    · rfl

theorem countIn_openElement (name : String) (selfClosing : Bool) (reader : Reader) :
    Node.countIn options char (reader.openElement name selfClosing).kept =
      Node.countIn options char reader.kept := by
  rw [openElement]
  split
  · rw [kept_add, Node.countIn_cons, Node.texts, Node.allTexts, List.count_nil, Nat.zero_add]
  · rfl

/-- How often a character stands in all texts, also in the one that is being read. -/
def held (options : Options) (char : Char) (reader : Reader) : Nat :=
  reader.phase.pending.count char + Node.countIn options char reader.kept

theorem countIn_add_text (raw : options.decodeEntities = false) (content : List Char)
    (reader : Reader) :
    Node.countIn options char (reader.add (.text content.reverse)).kept =
      content.count char + Node.countIn options char reader.kept := by
  rw [kept_add, Node.countIn_cons, Node.texts, shownText, raw]
  simp

/-- Of all effects only that of a text that ends adds to the texts. -/
theorem countIn_apply_le (raw : options.decodeEntities = false) {effect : Effect}
    {content : List Char}
    (leaf : ∀ node, effect = .adds node → node = .comment ∨ node = .text content.reverse)
    (reader : Reader) :
    Node.countIn options char (reader.apply effect).kept ≤
      content.count char + Node.countIn options char reader.kept := by
  cases effect with
  | keeps => exact Nat.le_add_left _ _
  | adds node =>
      rcases leaf node rfl with rfl | rfl
      · rw [apply, kept_add, Node.countIn_cons, Node.texts, List.count_nil, Nat.zero_add]
        exact Nat.le_add_left _ _
      · exact Nat.le_of_eq (countIn_add_text raw content reader)
  | opens name selfClosing =>
      rw [apply, countIn_openElement]
      exact Nat.le_add_left _ _
  | closes name =>
      rw [apply, countIn_closeNamed]
      exact Nat.le_add_left _ _

/-- Reading a character adds nothing but that character to the texts. What replaces the rest of a
spoilt character is a character of its own. -/
theorem held_step_le (raw : options.decodeEntities = false) (different : char ≠ '\uFFFD')
    (next : Char) (reader : Reader) :
    (reader.step next).held options char ≤ reader.held options char + [next].count char := by
  rcases reader with ⟨phase, stack, top⟩
  rcases acts_step phase next with ⟨effect, after, has⟩
  rw [has.acts, held, held, kept_goTo]
  change after.pending.count char + _ ≤ phase.pending.count char + _ + _
  rcases has.pending with ⟨rfl, longer⟩ | spoilt
  · rw [longer, ← List.singleton_append, List.count_append, apply]
    omega
  · have none : after.pending.count char = 0 :=
      List.count_eq_zero.mpr fun member => different (spoilt char member)
    have applied := @countIn_apply_le options char raw effect _ has.adds ⟨phase, stack, top⟩
    omega

theorem held_foldl_step_le (raw : options.decodeEntities = false) (different : char ≠ '\uFFFD')
    (source : List Char) (reader : Reader) :
    (source.foldl step reader).held options char ≤
      reader.held options char + source.count char := by
  induction source generalizing reader with
  | nil => exact Nat.le_refl _
  | cons next rest induction =>
      rw [List.foldl_cons, show next :: rest = [next] ++ rest from rfl, List.count_append,
        ← Nat.add_assoc]
      exact Nat.le_trans (induction _) (Nat.add_le_add_right (held_step_le raw different next reader) _)

theorem countIn_finish (raw : options.decodeEntities = false) (reader : Reader) :
    Node.countIn options char reader.finish.kept = reader.held options char := by
  rw [finish, held]
  split
  · rename_i content phase
    rw [phase, countIn_add_text raw]
    rfl
  · rename_i progress phase
    rw [phase, kept_add, Node.countIn_cons, Node.texts]
    rfl
  · rename_i text comment
    cases ended : reader.phase with
    | text content => exact absurd ended (text content)
    | _ => exact (Nat.zero_add _).symm

theorem countIn_nodes (reader : Reader) :
    Node.countIn options char reader.nodes = Node.countIn options char reader.kept := by
  have open_ (stack : List OpenElement) (inner : List Node) :
      Node.countIn options char (stack.foldl (fun inner element => [element.toNode inner]) inner) =
        Node.countIn options char inner +
          Node.countIn options char (stack.flatMap (·.children)) := by
    induction stack generalizing inner with
    | nil => rfl
    | cons element outer induction =>
        rw [List.foldl_cons, induction, Node.countIn_cons, countIn_toNode, Node.countIn_nil,
          List.flatMap_cons, Node.countIn_append]
        omega
  rw [nodes, Node.countIn_reverse, Node.countIn_append, open_, Node.countIn_nil, Nat.zero_add, kept,
    Node.countIn_append]

end Counting

end Reader

/-- No character of the texts that are read but one for characters that were spoilt comes from
anywhere but the page. -/
theorem countIn_read_le {options : Options} {char : Char} (raw : options.decodeEntities = false)
    (different : char ≠ '\uFFFD') (source : List Char) :
    Node.countIn options char (read source) ≤ source.count char := by
  rw [read, Reader.countIn_nodes, Reader.countIn_finish raw]
  exact Nat.le_trans (Reader.held_foldl_step_le raw different source .start)
    (Nat.le_of_eq (Nat.zero_add _))

end Markup

/-! ## Showing a page -/

namespace Rule

theorem visibleContent_sublist (rule : Rule) {items : List (List Char)} {inner : List Char}
    (ofItems : items.flatten.Sublist inner) : (rule.visibleContent items inner).Sublist inner := by
  unfold visibleContent
  split
  · exact List.nil_sublist inner
  · exact List.nil_sublist inner
  · exact ofItems
  · exact List.Sublist.refl inner

end Rule

namespace Node

variable (options : Options)

mutual

theorem visible_sublist_texts : (node : Node) → (node.visible options).Sublist (node.texts options)
  | .text _ => List.Sublist.refl _
  | .comment => List.Sublist.refl _
  | .element _ [] => List.nil_sublist _
  | .element _ (child :: rest) =>
      ((elementRule options _).visibleContent_sublist
        ((visibleItems_sublist (child :: rest)).trans (List.Sublist.refl _))).trans
        (visibleAll_sublist_allTexts (child :: rest))

theorem visibleAll_sublist_allTexts : (nodes : List Node) →
    (visibleAll options nodes).Sublist (allTexts options nodes)
  | [] => List.Sublist.refl _
  | node :: rest => (visible_sublist_texts node).append (visibleAll_sublist_allTexts rest)

theorem visibleItems_sublist : (nodes : List Node) →
    (visibleItems options nodes).flatten.Sublist (visibleAll options nodes)
  | [] => List.Sublist.refl _
  | node :: rest => by
      rw [visibleItems, visibleAll]
      split
      · exact (List.Sublist.refl _).append (visibleItems_sublist rest)
      · exact (visibleItems_sublist rest).trans (List.sublist_append_right _ _)

end

end Node

theorem count_message_le {options : Options} {char : Char} (inked : isBlank char = false)
    (noMarker : isMarker char = false) (nodes : List Node) :
    (message options nodes).count char ≤ Node.countIn options char nodes := by
  rw [← count_bare inked noMarker, ← (shows_message options nodes).noOther,
    count_bare inked noMarker]
  exact (Node.visibleAll_sublist_allTexts options nodes).count_le char

theorem count_convertText_le {options : Options} (raw : options.decodeEntities = false)
    (page : List Char) :
    (convertText options page).count ';' ≤
      if Markup.hasMisnested (Markup.read (prepare options (trim page))) then
        (Document.completed (prepare options (trim page))).count ';'
      else page.count ';' := by
  have nodes : Node.countIn options ';' (pageNodes (prepare options (trim page))) ≤
      if Markup.hasMisnested (Markup.read (prepare options (trim page))) then
        (Document.completed (prepare options (trim page))).count ';'
      else page.count ';' := by
    rw [pageNodes]
    split
    · exact Nat.le_trans (Markup.countIn_read_le raw (by decide) _)
        (Source.count_expandSelfClosing_le _)
    · exact Nat.le_trans (Markup.countIn_read_le raw (by decide) _)
        (count_prepare_le options page)
  rw [convertText]
  split
  · exact Nat.zero_le _
  · exact Nat.le_trans (count_message_le (by decide) (by decide) _) nodes

/-- A message that leaves references as they are has no more semicolons than its page, unless the
page is completed and completing it writes more of them. -/
theorem semicolons_convert_le (options : Options) (raw : options.decodeEntities = false)
    (page : List Char)
    (completing : Markup.hasMisnested (Markup.read (prepare options (trim page))) = true →
      (Document.completed (prepare options (trim page))).count ';' ≤ page.count ';') :
    (convert (String.ofList page) options).toList.count ';' ≤ page.count ';' := by
  rw [convert, String.toList_ofList, String.toList_ofList]
  refine Nat.le_trans (count_convertText_le raw page) ?_
  split
  · rename_i misnested
    exact completing misnested
  · exact Nat.le_refl _

theorem semicolons_convert_le_completed :
    convert "<p>a;&lt;<p class=';'>b;" { decodeEntities := false } = "a;&lt;\n\nb;" ∧
      "a;&lt;\n\nb;".toList.count ';' ≤ "<p>a;&lt;<p class=';'>b;".toList.count ';' := by
  have bound := semicolons_convert_le { decodeEntities := false } rfl
    "<p>a;&lt;<p class=';'>b;".toList (by decide +kernel)
  have message : convert "<p>a;&lt;<p class=';'>b;" { decodeEntities := false } =
      "a;&lt;\n\nb;" := by decide +kernel
  rw [String.ofList_toList, message] at bound
  exact ⟨message, bound⟩

/-- Completing a page writes a reference for a bracket that closes nothing. -/
theorem bracket_written_as_reference :
    ∃ page : List Char,
      page.count ';' <
        (convert (String.ofList page) { decodeEntities := false }).toList.count ';' :=
  ⟨"<p>a>b<p>c".toList, by decide +kernel⟩

end ChatMarkup
