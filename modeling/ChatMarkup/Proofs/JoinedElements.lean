import ChatMarkup.Proofs.HiddenSpellings

/-!
Hidden elements that come into being by removal. The stretches of a page between the elements that
are removed are joined, and a tag may come out of the end of one stretch and the beginning of
another. Removal leaves no other hidden elements, so that a page from which hidden elements have
been removed stays as it is exactly if no element with such a tag is in it.
-/

namespace ChatMarkup

open Text

namespace Source

variable {anyCase : Bool}

/-! ## Joined stretches -/

/-- The word stands between `before` and `after` where the stretches are joined, and one of the
joins is inside of it. -/
def IsJoined (stretches : List (List Char)) (before word after : List Char) : Prop :=
  ∃ front back left right, stretches = front ++ back ∧ word = left ++ right ∧
    left ≠ [] ∧ right ≠ [] ∧ front.flatten = before ++ left ∧ back.flatten = right ++ after

/-- A word has a join inside of it, or it stands in one stretch. -/
theorem isJoined_or_exists_stretch {stretches : List (List Char)} {before word after : List Char}
    (nonempty : word ≠ []) (joined : stretches.flatten = before ++ (word ++ after)) :
    IsJoined stretches before word after ∨
      ∃ front left right back, stretches = front ++ (left ++ (word ++ right)) :: back ∧
        before = front.flatten ++ left ∧ after = right ++ back.flatten := by
  induction stretches generalizing before with
  | nil => simp [nonempty] at joined
  | cons stretch rest induction =>
      have later {more : List Char} (passed : before = stretch ++ more)
          (left : rest.flatten = more ++ (word ++ after)) :
          IsJoined (stretch :: rest) before word after ∨
            ∃ front left right back,
              stretch :: rest = front ++ (left ++ (word ++ right)) :: back ∧
                before = front.flatten ++ left ∧ after = right ++ back.flatten := by
        rcases induction left with
          ⟨front, back, first, last, rfl, split, firstInk, lastInk, joins⟩ |
          ⟨front, first, last, back, rfl, rfl, rfl⟩
        · exact .inl ⟨stretch :: front, back, first, last, rfl, split, firstInk, lastInk,
            by rw [List.flatten_cons, joins.1, passed, List.append_assoc], joins.2⟩
        · exact .inr ⟨stretch :: front, first, last, back, rfl, by simp [passed], rfl⟩
      rw [List.flatten_cons] at joined
      rcases List.append_eq_append_iff.mp joined with ⟨more, passed, left⟩ | ⟨more, rfl, inside⟩
      · exact later passed left
      · by_cases none : more = []
        · subst none
          exact @later [] (by simp) inside.symm
        rcases List.append_eq_append_iff.mp inside with ⟨right, rfl, rfl⟩ | ⟨right, rfl, left⟩
        · exact .inr ⟨[], before, right, rest, rfl, rfl, rfl⟩
        · by_cases whole : right = []
          · subst whole
            exact .inr ⟨[], before, [], rest, by simp, rfl, left.symm⟩
          · exact .inl ⟨[before ++ more], rest, more, right, rfl, rfl, none, whole, by simp, left⟩

/-! ## Stretches of a page -/

set_option linter.unusedVariables false in
/-- What stays of a page: the stretches in front of, between and behind the elements that are
removed. -/
def keptStretches (anyCase : Bool) (source : List Char) : List (List Char) :=
  match source with
  | [] => [[]]
  | char :: rest =>
    match found : afterHidden? anyCase (char :: rest) with
    | some after => [] :: keptStretches anyCase after
    | none => (keptStretches anyCase rest).modifyHead (char :: ·)
termination_by source.length
decreasing_by
  · exact length_afterHidden?_lt found
  · simp

theorem keptStretches_of_found {source after : List Char}
    (found : afterHidden? anyCase source = some after) :
    keptStretches anyCase source = [] :: keptStretches anyCase after := by
  cases source with
  | nil => cases found
  | cons char rest =>
      rw [keptStretches]
      split
      · rename_i again
        rw [found] at again
        rw [Option.some.inj again]
      · rename_i again
        rw [found] at again
        cases again

theorem exists_keptStretches_eq_cons (source : List Char) :
    ∃ stretch back, keptStretches anyCase source = stretch :: back := by
  fun_induction keptStretches anyCase source with
  | case1 => exact ⟨[], [], rfl⟩
  | case2 char rest after found induction => exact ⟨[], _, rfl⟩
  | case3 char rest shown induction =>
      rcases induction with ⟨stretch, back, same⟩
      exact ⟨char :: stretch, back, by rw [same]; rfl⟩

theorem keptStretches_cons {char : Char} {rest stretch : List Char} {back : List (List Char)}
    (shown : afterHidden? anyCase (char :: rest) = none)
    (stretches : keptStretches anyCase rest = stretch :: back) :
    keptStretches anyCase (char :: rest) = (char :: stretch) :: back := by
  rw [keptStretches]
  split
  · rename_i found
    rw [shown] at found
    cases found
  · rw [stretches]
    rfl

theorem flatten_keptStretches (source : List Char) :
    (keptStretches anyCase source).flatten = removeHiddenWhere anyCase source := by
  fun_induction removeHiddenWhere anyCase source with
  | case1 => rw [keptStretches]; rfl
  | case2 char rest after found induction =>
      rw [keptStretches_of_found found, List.flatten_cons, induction, List.nil_append]
  | case3 char rest shown induction =>
      rcases @exists_keptStretches_eq_cons anyCase rest with ⟨stretch, back, stretches⟩
      rw [stretches, List.flatten_cons] at induction
      rw [keptStretches_cons shown stretches, List.flatten_cons, List.cons_append, induction]

/-- A stretch stands at the beginning of the page, and the other ones follow an element. -/
theorem exists_of_keptStretches_cons {source stretch : List Char} {rest : List (List Char)}
    (stretches : keptStretches anyCase source = stretch :: rest) (more : rest ≠ []) :
    ∃ element later, source = stretch ++ (element ++ later) ∧
      keptStretches anyCase later = rest := by
  induction source generalizing stretch with
  | nil =>
      rw [keptStretches] at stretches
      exact absurd (List.cons.inj stretches).2.symm more
  | cons char source induction =>
      cases found : afterHidden? anyCase (char :: source) with
      | some later =>
          rw [keptStretches_of_found found] at stretches
          rcases List.cons.inj stretches with ⟨rfl, same⟩
          rcases afterHidden?_suffix found with ⟨element, whole⟩
          exact ⟨element, later, whole.symm, same⟩
      | none =>
          rcases @exists_keptStretches_eq_cons anyCase source with ⟨first, others, split⟩
          rw [keptStretches_cons found split] at stretches
          rcases List.cons.inj stretches with ⟨rfl, rfl⟩
          rcases induction split with ⟨element, later, rfl, same⟩
          exact ⟨element, later, rfl, same⟩

/-- A stretch is kept where it stands in the page. -/
theorem exists_of_keptStretches {source stretch : List Char} {front back : List (List Char)}
    (stretches : keptStretches anyCase source = front ++ stretch :: back) :
    ∃ first last, source = first ++ last ∧ front.flatten.Sublist first ∧
      keptStretches anyCase last = stretch :: back := by
  induction front generalizing source with
  | nil => exact ⟨[], source, rfl, .refl _, stretches⟩
  | cons early front induction =>
      rcases exists_of_keptStretches_cons stretches (by simp) with ⟨element, later, rfl, split⟩
      rcases induction split with ⟨first, last, rfl, within, ends⟩
      refine ⟨early ++ (element ++ first), last, by simp, ?_, ends⟩
      exact (within.trans (List.sublist_append_right element first)).append_left early

/-- The end of a stretch is kept by itself, and no element begins there. -/
theorem exists_of_keptStretches_append {source left right : List Char} {back : List (List Char)}
    (stretches : keptStretches anyCase source = (left ++ right) :: back) :
    ∃ later, source = left ++ later ∧ keptStretches anyCase later = right :: back ∧
      (right ≠ [] → afterHidden? anyCase later = none) := by
  induction left generalizing source with
  | nil =>
      refine ⟨source, rfl, stretches, fun nonempty => ?_⟩
      rw [Option.eq_none_iff_forall_ne_some]
      intro after found
      rw [keptStretches_of_found found] at stretches
      exact nonempty (List.cons.inj stretches).1.symm
  | cons char left induction =>
      cases source with
      | nil =>
          rw [keptStretches] at stretches
          cases stretches
      | cons first source =>
          cases found : afterHidden? anyCase (first :: source) with
          | some after =>
              rw [keptStretches_of_found found] at stretches
              cases stretches
          | none =>
              rcases @exists_keptStretches_eq_cons anyCase source with ⟨stretch, others, split⟩
              rw [keptStretches_cons found split, List.cons_append] at stretches
              rcases List.cons.inj stretches with ⟨same, rfl⟩
              rcases List.cons.inj same with ⟨rfl, rfl⟩
              rcases induction split with ⟨later, rfl, ends⟩
              exact ⟨later, rfl, ends⟩

/-- A word in one stretch is a word of the page, where no element begins. -/
theorem exists_of_word {source left word right : List Char} {front back : List (List Char)}
    (stretches : keptStretches anyCase source = front ++ (left ++ (word ++ right)) :: back)
    (nonempty : word ≠ []) :
    ∃ first last, source = first ++ (word ++ last) ∧ (front.flatten ++ left).Sublist first ∧
      keptStretches anyCase last = right :: back ∧
        afterHidden? anyCase (word ++ last) = none := by
  rcases exists_of_keptStretches stretches with ⟨first, later, rfl, within, split⟩
  rcases exists_of_keptStretches_append split with ⟨atWord, rfl, wordSplit, shown⟩
  rcases exists_of_keptStretches_append wordSplit with ⟨last, rfl, ends, -⟩
  refine ⟨first ++ left, last, by simp, within.append_right left, ends, shown ?_⟩
  exact fun empty => nonempty (List.append_eq_nil_iff.mp empty).1

/-- A join of the stretches behind a place in the page is one of the page. -/
theorem IsJoined.append {right before word after : List Char} {back : List (List Char)}
    (joined : IsJoined (right :: back) before word after) (front : List (List Char))
    (left : List Char) :
    IsJoined (front ++ (left ++ right) :: back) (front.flatten ++ left ++ before) word after := by
  rcases joined with ⟨first, last, wordFront, wordBack, split, whole, inkFront, inkBack, joins⟩
  cases first with
  | nil =>
      have empty := List.append_eq_nil_iff.mp joins.1.symm
      exact absurd empty.2 inkFront
  | cons stretch first =>
      rcases List.cons.inj split with ⟨rfl, rfl⟩
      refine ⟨front ++ (left ++ right) :: first, last, wordFront, wordBack, by simp, whole,
        inkFront, inkBack, ?_, joins.2⟩
      rw [List.flatten_append, List.flatten_cons, List.append_assoc left, ← List.flatten_cons,
        joins.1]
      simp

/-! ## What is left -/

theorem isWord_open_bracket : isWord '<' = false := by decide +kernel

/-- No element begins with a character of a word, so that removal keeps the end of a word. -/
theorem any_isWord_of_removeHiddenWhere {source : List Char}
    (wordEnds : (removeHiddenWhere anyCase source).head?.any isWord = false) :
    source.head?.any isWord = false := by
  cases source with
  | nil => rfl
  | cons char rest =>
      cases found : afterHidden? anyCase (char :: rest) with
      | none =>
          rw [removeHiddenWhere_cons found] at wordEnds
          exact wordEnds
      | some after =>
          rcases (@isSome_afterHidden?_iff anyCase (char :: rest)).mp
            (Option.isSome_of_mem found) with ⟨element, begins⟩
          rcases element.exists_bracket with ⟨letters, source⟩
          rw [source] at begins
          rcases (List.cons_prefix_cons.mp begins).1 with rfl
          rw [List.head?_cons, Option.any_some, isWord_open_bracket]

theorem HiddenSpelling.opening_ne_nil (element : HiddenSpelling anyCase) :
    element.opening ≠ [] := by
  rcases element.opens.exists_bracket with ⟨letters, opening⟩
  rw [opening]
  exact List.cons_ne_nil _ _

theorem HiddenSpelling.closing_ne_nil (element : HiddenSpelling anyCase) :
    element.closing ≠ [] := by
  rcases element.closes with ⟨letters, blanks, -, -, closing⟩
  simp [closing]

/-- A tag of the element is one that removal has put together. -/
def HiddenSpelling.IsPutTogether (element : HiddenSpelling anyCase)
    (stretches : List (List Char)) (before after : List Char) : Prop :=
  IsJoined stretches before element.opening
      (element.attributes ++ '>' :: (element.body ++ (element.closing ++ after))) ∨
    IsJoined stretches
      (before ++ (element.opening ++ (element.attributes ++ '>' :: element.body)))
      element.closing after

/-- Of the elements that removal leaves a tag has been put together. -/
theorem HiddenSpelling.isPutTogether (element : HiddenSpelling anyCase)
    {page before after : List Char}
    (remains : removeHiddenWhere anyCase page = before ++ (element.source ++ after)) :
    element.IsPutTogether (keptStretches anyCase page) before after := by
  have spelled : element.source ++ after = element.opening ++
      (element.attributes ++ '>' :: (element.body ++ (element.closing ++ after))) := by
    simp [source]
  rw [spelled, ← flatten_keptStretches] at remains
  rcases isJoined_or_exists_stretch element.opening_ne_nil remains with
    joined | ⟨front, left, right, back, stretches, rfl, behind⟩
  · exact .inl joined
  rcases exists_of_word stretches element.opening_ne_nil with ⟨-, last, -, -, ends, shown⟩
  have behindOpening := (congrArg List.flatten ends).trans behind.symm
  have apart : element.attributes ++ '>' :: (element.body ++ (element.closing ++ after)) =
      element.attributes ++ '>' :: element.body ++ (element.closing ++ after) := by simp
  rw [apart] at behindOpening
  rcases isJoined_or_exists_stretch element.closing_ne_nil behindOpening with
    joined | ⟨bodyFront, bodyLeft, bodyRight, bodyBack, bodyStretches, inFront, -⟩
  · rw [ends] at joined
    have joinedInPage := joined.append front (left ++ element.opening)
    rw [List.append_assoc left, ← stretches] at joinedInPage
    exact .inr (by simpa using joinedInPage)
  · exfalso
    rcases exists_of_word bodyStretches element.closing_ne_nil with ⟨first, rest, rfl, within, -, -⟩
    rw [← inFront] at within
    have bracket : '>' ∈ first := within.mem (by simp)
    rcases List.eq_append_cons_of_mem bracket with ⟨attributes, body, rfl, oneTag⟩
    have wordEnds : attributes.head?.any isWord = false := by
      have kept : (removeHiddenWhere anyCase
          (attributes ++ '>' :: body ++ (element.closing ++ rest))).head?.any isWord = false := by
        rw [← flatten_keptStretches, behindOpening, List.append_assoc, List.cons_append,
          any_isWord_append_bracket, element.wordEnds]
      have ended := any_isWord_of_removeHiddenWhere kept
      rwa [List.append_assoc, List.cons_append, any_isWord_append_bracket] at ended
    have begins : (⟨element.name, element.opening, attributes, body, element.closing,
        element.hidden, element.opens, oneTag, wordEnds, element.closes⟩ :
          HiddenSpelling anyCase).source <+:
        element.opening ++ (attributes ++ '>' :: body ++ (element.closing ++ rest)) :=
      ⟨rest, by simp [source]⟩
    have written := (isSome_afterHidden?_iff _).mpr ⟨_, begins⟩
    rw [shown] at written
    cases written

end Source

open Source

/-- Removing hidden elements a second time removes something exactly if a tag has been put together
by removing them for the first time, and an element begins or ends with this tag. -/
theorem removeHidden_removeHidden_iff (options : Options) (page : List Char) :
    removeHidden options (removeHidden options page) = removeHidden options page ↔
      ¬∃ (element : HiddenSpelling options.lowercaseTags) (before after : List Char),
        removeHidden options page = before ++ (element.source ++ after) ∧
          element.IsPutTogether (keptStretches options.lowercaseTags page) before after := by
  rw [removeHidden, removeHiddenWhere_eq_self_iff]
  constructor
  · rintro free ⟨element, before, after, remains, -⟩
    exact free element ⟨before, after, by rw [List.append_assoc, ← remains, removeHidden]⟩
  · rintro whole element ⟨before, after, remains⟩
    rw [List.append_assoc] at remains
    exact whole ⟨element, before, after, remains.symm, element.isPutTogether remains.symm⟩

/-- Taking one script out of the start tag of another one leaves the other one. -/
theorem script_left_by_removal :
    ∃ page : List Char, removeHidden {} (removeHidden {} page) ≠ removeHidden {} page :=
  ⟨"<scr<script></script>ipt>x</script>".toList, by decide +kernel⟩

end ChatMarkup
