import ChatMarkup.Proofs.HiddenElements
import ChatMarkup.Proofs.Semicolons

/-!
Where hidden elements are written in a page, in whatever spelling. A page stays as it is exactly if
there are none in it, so that the only pages without the names of hidden elements that change are
those that write such a name with a long s.
-/

namespace ChatMarkup

open Text

namespace Source

variable {anyCase : Bool} {name : List Char}

/-- Letters that are no long s differ in their case only. -/
theorem Spells.map_toLower (small : name.map Char.toLower = name) {letters : List Char}
    (spells : Spells anyCase name letters) (noLong : 'ſ' ∉ letters) :
    letters.map Char.toLower = name := by
  induction spells with
  | nil => rfl
  | @cons letter char name letters matching _ induction =>
      rw [List.map_cons, List.cons.injEq] at small
      rw [List.mem_cons, not_or] at noLong
      rw [List.map_cons, induction small.2 noLong.2]
      simp only [matchesLetter, Bool.or_eq_true, Bool.and_eq_true, beq_iff_eq] at matching
      rcases matching with rfl | ⟨-, lowered | ⟨-, long⟩⟩
      · rw [small.1]
      · rw [lowered]
      · exact absurd long.symm noLong.1

/-! ## Elements -/

structure HiddenSpelling (anyCase : Bool) where
  name : List Char
  opening : List Char
  attributes : List Char
  body : List Char
  closing : List Char
  hidden : name ∈ hiddenNames
  opens : Spells anyCase ('<' :: name) opening
  oneTag : '>' ∉ attributes
  wordEnds : attributes.head?.any isWord = false
  closes : IsEndTag anyCase name closing

def HiddenSpelling.source (element : HiddenSpelling anyCase) : List Char :=
  element.opening ++ (element.attributes ++ '>' :: (element.body ++ element.closing))

theorem isSome_afterHidden?_iff (text : List Char) :
    (afterHidden? anyCase text).isSome = true ↔
      ∃ element : HiddenSpelling anyCase, element.source <+: text := by
  rw [afterHidden?, List.findSome?_isSome_iff]
  constructor
  · rintro ⟨name, hidden, found⟩
    rw [afterElement?] at found
    split at found
    · cases found
    · rename_i content started
      rcases afterStartTag?_eq_some_iff.mp started with
        ⟨opening, attributes, opens, oneTag, wordEnds, rfl⟩
      rcases (isSome_afterBody?_iff content).mp found with ⟨body, closing, after, closes, rfl⟩
      exact ⟨⟨name, opening, attributes, body, closing, hidden, opens, oneTag, wordEnds, closes⟩,
        after, by simp [HiddenSpelling.source]⟩
  · rintro ⟨element, after, rfl⟩
    have started : afterStartTag? anyCase element.name (element.source ++ after) =
        some (element.body ++ (element.closing ++ after)) :=
      afterStartTag?_eq_some_iff.mpr ⟨element.opening, element.attributes, element.opens,
        element.oneTag, element.wordEnds, by simp [HiddenSpelling.source]⟩
    refine ⟨element.name, element.hidden, ?_⟩
    rw [afterElement?, started]
    exact (isSome_afterBody?_iff _).mpr ⟨_, _, _, element.closes, rfl⟩

theorem HiddenSpelling.exists_bracket (element : HiddenSpelling anyCase) :
    ∃ rest, element.source = '<' :: rest := by
  rcases element.opens.exists_bracket with ⟨letters, opening⟩
  exact ⟨_, by rw [source, opening, List.cons_append]⟩

/-- A page with a hidden element gets shorter. -/
theorem length_removeHiddenWhere_lt (element : HiddenSpelling anyCase) (before after : List Char) :
    (removeHiddenWhere anyCase (before ++ (element.source ++ after))).length <
      (before ++ (element.source ++ after)).length := by
  have removed {page rest : List Char} (found : afterHidden? anyCase page = some rest) :
      (removeHiddenWhere anyCase page).length < page.length := by
    rw [removeHiddenWhere_of_found found]
    exact Nat.lt_of_le_of_lt (removeHiddenWhere_sublist anyCase rest).length_le
      (length_afterHidden?_lt found)
  induction before with
  | nil =>
      have written := (isSome_afterHidden?_iff _).mpr ⟨element, List.prefix_append _ after⟩
      rcases Option.isSome_iff_exists.mp written with ⟨rest, found⟩
      exact removed found
  | cons char before induction =>
      rw [List.cons_append]
      cases found : afterHidden? anyCase (char :: (before ++ (element.source ++ after))) with
      | none =>
          rw [removeHiddenWhere_cons found]
          exact Nat.succ_lt_succ induction
      | some rest => exact removed found

/-- A page stays as it is exactly if no hidden element is written in it. -/
theorem removeHiddenWhere_eq_self_iff (page : List Char) :
    removeHiddenWhere anyCase page = page ↔
      ∀ element : HiddenSpelling anyCase, ¬element.source <:+: page := by
  constructor
  · rintro kept element ⟨before, after, whole⟩
    have shorter := length_removeHiddenWhere_lt element before after
    rw [← List.append_assoc, whole, kept] at shorter
    exact Nat.lt_irrefl _ shorter
  · intro free
    induction page with
    | nil => rw [removeHiddenWhere]
    | cons char rest induction =>
        have shown : afterHidden? anyCase (char :: rest) = none := by
          rw [← Option.not_isSome_iff_eq_none, isSome_afterHidden?_iff]
          rintro ⟨element, begins⟩
          exact free element begins.isInfix
        rw [removeHiddenWhere_cons shown, induction fun element written =>
          free element (written.trans (List.suffix_cons char rest).isInfix)]

/-! ## Pages that do not name hidden elements -/

theorem map_toLower_bracket_of_mem_hiddenNames {name : List Char} (hidden : name ∈ hiddenNames) :
    ('<' :: name).map Char.toLower = '<' :: name := by
  revert name
  decide

theorem long_notMem_of_mem_hiddenNames {name : List Char} (hidden : name ∈ hiddenNames) :
    'ſ' ∉ '<' :: name := by
  revert name
  decide

/-- Without the names of hidden elements in a page, a hidden element is spelled with a long s. -/
theorem HiddenSpelling.long_mem (element : HiddenSpelling anyCase) {page : List Char}
    (unnamed : ∀ name ∈ hiddenNames, ¬ '<' :: name <:+: page.map Char.toLower)
    (written : element.source <:+: page) : 'ſ' ∈ element.opening := by
  by_contra noLong
  apply unnamed element.name element.hidden
  rw [← element.opens.map_toLower (map_toLower_bracket_of_mem_hiddenNames element.hidden) noLong]
  exact ((List.prefix_append element.opening _).isInfix.trans written).map Char.toLower

end Source

open Source

/-- If no hidden element is named in a page, in any case of the ASCII letters, the page loses
something exactly if case does not matter and an element in it is spelled with a long s. -/
theorem removeHidden_unnamed (options : Options) (page : List Char)
    (unnamed : ∀ name ∈ hiddenNames, ¬ '<' :: name <:+: page.map Char.toLower) :
    removeHidden options page = page ↔
      ¬(options.lowercaseTags = true ∧ ∃ element : HiddenSpelling true,
        'ſ' ∈ element.opening ∧ element.source <:+: page) := by
  rw [removeHidden, removeHiddenWhere_eq_self_iff]
  cases options.lowercaseTags with
  | true =>
      constructor
      · rintro free ⟨-, element, -, written⟩
        exact free element written
      · intro free element written
        exact free ⟨rfl, element, element.long_mem unnamed written, written⟩
  | false =>
      refine iff_of_true (fun element written => ?_) fun both => Bool.false_ne_true both.1
      have long := element.long_mem unnamed written
      rw [element.opens.eq] at long
      exact long_notMem_of_mem_hiddenNames element.hidden long

theorem removeHidden_unnamed_mixed :
    removeHidden {} "a<ſtyle b>c</STYLE>d".toList = "a<ſtyle b>c</STYLE>d".toList ∧
      ∃ element : HiddenSpelling true,
        'ſ' ∈ element.opening ∧ element.source <:+: "a<ſtyle b>c</STYLE>d".toList := by
  have unnamed : ∀ name ∈ hiddenNames,
      ¬ '<' :: name <:+: "a<ſtyle b>c</STYLE>d".toList.map Char.toLower := by decide +kernel
  refine ⟨(removeHidden_unnamed {} _ unnamed).mpr fun both => Bool.false_ne_true both.1, ?_⟩
  have changes : removeHidden { lowercaseTags := true } "a<ſtyle b>c</STYLE>d".toList ≠
      "a<ſtyle b>c</STYLE>d".toList := by decide +kernel
  exact (not_not.mp ((removeHidden_unnamed _ _ unnamed).not.mp changes)).2

/-- Where case does not matter an element is removed whose name begins with a long s, although it is
no name of a hidden element in any case of the ASCII letters. -/
theorem long_script_removed :
    ∃ page : List Char, (∀ name ∈ hiddenNames, ¬ '<' :: name <:+: page.map Char.toLower) ∧
      removeHidden { lowercaseTags := true } page ≠ page :=
  ⟨"<ſcript>x</ſcript>y".toList, by decide +kernel, by decide +kernel⟩

end ChatMarkup
