import ChatMarkup.Proofs.ListLines

/-!
Which items a list shows. The lines of a list are collected item by item: a blank item leaves no
trace, and the number of a line is told by the lines before it. So the text of a list depends on
nothing but the items that are not blank. These can be read off the text again, however much they
look like lines of a list themselves, as long as none of them holds a line break.
-/

namespace ChatMarkup

open Text

namespace Rule

/-! ## Collecting lines -/

/-- The lines of a list after one more item, where `collected` are the lines before it. -/
def collectItem (kind : ListKind) (collected : List (List Char)) (item : List Char) :
    List (List Char) :=
  if trim item = [] then collected
  else collected ++ [kind.line (collected.length + 1) (trim item)]

def numberedLines (kind : ListKind) (texts : List (List Char)) : List (List Char) :=
  texts.mapIdx fun position text => kind.line (position + 1) text

theorem survivors_concat (items : List (List Char)) (item : List Char) :
    survivors (items ++ [item]) =
      if trim item = [] then survivors items else survivors items ++ [trim item] := by
  rw [survivors, survivors, List.map_append, List.filter_append]
  cases trimmed : trim item <;> simp [trimmed]

/-- The collected lines are the numbered texts of the items so far, and one more item keeps them
so. -/
theorem collectItem_numberedLines (kind : ListKind) (items : List (List Char)) (item : List Char) :
    collectItem kind (numberedLines kind (survivors items)) item =
      numberedLines kind (survivors (items ++ [item])) := by
  rw [collectItem, survivors_concat]
  split
  · rfl
  · rw [numberedLines, List.length_mapIdx, numberedLines, List.mapIdx_concat]

theorem foldl_collectItem (kind : ListKind) (items : List (List Char)) :
    items.foldl (collectItem kind) [] = numberedLines kind (survivors items) := by
  induction items using List.reverseRecOn with
  | nil => rfl
  | append_singleton items item induction =>
      rw [List.foldl_append, List.foldl_cons, List.foldl_nil, induction,
        collectItem_numberedLines]

theorem applyList_eq_unlines (kind : ListKind) (items : List (List Char)) :
    applyList kind items = unlines (numberedLines kind (survivors items)) := by
  simp only [applyList, numberedLines, bullet_append]

/-! ## One line -/

theorem line_injective (kind : ListKind) (number : Nat) :
    Function.Injective (kind.line number) := by
  intro left right same
  cases kind with
  | unordered => exact List.append_cancel_left same
  | ordered => exact List.append_cancel_left (List.append_cancel_left same)

theorem line_ne_nil (kind : ListKind) (position : Nat) (text : List Char) :
    kind.line (position + 1) text ≠ [] := by
  rcases exists_bullet_eq_cons kind position with ⟨first, rest, whole, -, -⟩
  rw [← bullet_append, whole]
  exact List.cons_ne_nil _ _

/-! ## All lines -/

/-- Lines at the same position have the same bullet, so what comes after it tells them apart. -/
theorem numberedLines_injective (kind : ListKind) : Function.Injective (numberedLines kind) := by
  intro left right same
  have lengths : left.length = right.length := by
    simpa [numberedLines] using congrArg List.length same
  refine List.ext_getElem lengths fun position inLeft inRight => ?_
  have line : (numberedLines kind left)[position]? = (numberedLines kind right)[position]? := by
    rw [same]
  apply line_injective kind (position + 1)
  simpa [numberedLines, inLeft, inRight] using line

variable {kind : ListKind} {items : List (List Char)}

theorem applyList_eq_nil_iff : applyList kind items = [] ↔ survivors items = [] := by
  rw [applyList_eq_unlines]
  constructor
  · intro nothing
    cases survive : survivors items with
    | nil => rfl
    | cons text rest =>
        rw [survive, numberedLines, List.mapIdx_cons, unlines,
          joinWithChar_cons_eq_flatMap] at nothing
        exact absurd (List.append_eq_nil_iff.mp nothing).1 (line_ne_nil kind 0 text)
  · intro none
    rw [none]
    rfl

theorem lines_applyList (noBreaks : ∀ item ∈ items, '\n' ∉ trim item)
    (some : survivors items ≠ []) :
    lines (applyList kind items) = numberedLines kind (survivors items) := by
  have lineFree : ∀ line ∈ numberedLines kind (survivors items), '\n' ∉ line := by
    intro line member
    rcases List.mem_mapIdx.mp member with ⟨position, inRange, rfl⟩
    have trimmed := isTrimmedLine_of_mem_survivors noBreaks _ (List.getElem_mem inRange)
    rw [← bullet_append]
    exact (isTrimmedLine_bullet kind position trimmed).noBreak
  have nonempty : numberedLines kind (survivors items) ≠ [] := mt List.mapIdx_eq_nil_iff.mp some
  rw [applyList_eq_unlines, lines, unlines, splitAtChar_joinWithChar nonempty lineFree]

theorem survivors_eq_of_applyList_eq {left right : List (List Char)}
    (leftFree : ∀ item ∈ left, '\n' ∉ trim item) (rightFree : ∀ item ∈ right, '\n' ∉ trim item)
    (same : applyList kind left = applyList kind right) : survivors left = survivors right := by
  have bothEmpty : survivors left = [] ↔ survivors right = [] := by
    rw [← applyList_eq_nil_iff, same, applyList_eq_nil_iff]
  by_cases none : survivors left = []
  · rw [none, bothEmpty.mp none]
  · have some : survivors right ≠ [] := mt bothEmpty.mpr none
    apply numberedLines_injective kind
    rw [← lines_applyList leftFree none, ← lines_applyList rightFree some, same]

/-- An item with a line break may look like two items. -/
example : applyList .unordered ["a\n- b".toList] =
    applyList .unordered ["a".toList, "b".toList] := by
  decide +kernel

end Rule

/-- A list is what its items leave when they are collected one after the other. Its text depends on
the items that are not blank and on nothing else: each of them has a line of its own, behind a dash
or its number, and if they hold no line break they are what the lines tell. -/
theorem list_by_survivors (kind : ListKind) :
    (∀ items, Rule.applyList kind items = unlines (items.foldl (Rule.collectItem kind) [])) ∧
      (∀ left right, Rule.survivors left = Rule.survivors right →
        Rule.applyList kind left = Rule.applyList kind right) ∧
      (∀ items, Rule.applyList kind items = [] ↔ Rule.survivors items = []) ∧
      (∀ items, (∀ item ∈ items, '\n' ∉ trim item) → Rule.survivors items ≠ [] →
        lines (Rule.applyList kind items) =
          (Rule.survivors items).mapIdx fun position text => kind.line (position + 1) text) ∧
      ∀ left right, (∀ item ∈ left, '\n' ∉ trim item) → (∀ item ∈ right, '\n' ∉ trim item) →
        Rule.applyList kind left = Rule.applyList kind right →
          Rule.survivors left = Rule.survivors right := by
  refine ⟨?_, ?_, fun items => Rule.applyList_eq_nil_iff, fun items => Rule.lines_applyList,
    fun left right => Rule.survivors_eq_of_applyList_eq⟩
  · intro items
    rw [Rule.foldl_collectItem, Rule.applyList_eq_unlines]
  · intro left right same
    rw [Rule.applyList_eq_unlines, Rule.applyList_eq_unlines, same]

theorem list_by_survivors_lookalike :
    lines (Rule.applyList .ordered [[], " 2. a\t".toList, "\u00A0\n".toList, "- ".toList]) =
        ["1. 2. a".toList, "2. -".toList] ∧
      Rule.applyList .ordered [[], " 2. a\t".toList, "\u00A0\n".toList, "- ".toList] =
        Rule.applyList .ordered ["2. a".toList, "\n-".toList] ∧
      Rule.applyList .unordered ["- a".toList, "b".toList] ≠
        Rule.applyList .unordered ["a".toList, "- b".toList] := by
  rcases list_by_survivors .ordered with ⟨-, determined, -, byLine, -⟩
  rcases list_by_survivors .unordered with ⟨-, -, -, -, told⟩
  refine ⟨?_, ?_, fun same => ?_⟩
  · exact (byLine _ (by decide +kernel) (by decide +kernel)).trans (by decide +kernel)
  · exact determined _ _ (by decide +kernel)
  · exact absurd (told _ _ (by decide +kernel) (by decide +kernel) same) (by decide +kernel)

end ChatMarkup
