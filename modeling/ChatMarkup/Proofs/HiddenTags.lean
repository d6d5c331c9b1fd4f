import Mathlib.Data.List.Forall2
import Mathlib.Data.List.TakeWhile
import ChatMarkup.Proofs.PlainPage

/-!
The tags of hidden elements. Where case does not matter a name is found in every spelling of its
letters, and an s may be a long one. What follows a tag is found exactly if the page begins with the
tag in one of its spellings.
-/

namespace ChatMarkup

open Text

namespace Source

variable {anyCase : Bool} {name : List Char}

/-! ## Names -/

def Spells (anyCase : Bool) (name letters : List Char) : Prop :=
  List.Forall₂ (fun letter char => matchesLetter anyCase letter char = true) name letters

theorem afterName?_eq_some_iff {source rest : List Char} :
    afterName? anyCase name source = some rest ↔
      ∃ letters, Spells anyCase name letters ∧ source = letters ++ rest := by
  constructor
  · intro found
    induction name generalizing source with
    | nil => exact ⟨[], .nil, Option.some.inj found⟩
    | cons letter name induction =>
        cases source with
        | nil => cases found
        | cons char source =>
            rw [afterName?] at found
            split at found
            · rename_i matching
              rcases induction found with ⟨letters, spells, rfl⟩
              exact ⟨char :: letters, .cons matching spells, rfl⟩
            · cases found
  · rintro ⟨letters, spells, rfl⟩
    induction spells with
    | nil => rfl
    | cons matching _ induction =>
        rw [List.cons_append, afterName?, if_pos matching]
        exact induction

/-- A spelling begins with the very character that a name begins with, if that is no letter. -/
theorem Spells.exists_bracket {letters : List Char}
    (spells : Spells anyCase ('<' :: name) letters) : ∃ rest, letters = '<' :: rest := by
  cases spells with
  | @cons _ char _ rest matching _ =>
      by_cases bracket : char = '<'
      · exact ⟨rest, by rw [bracket]⟩
      · rw [matchesLetter_bracket_of_ne bracket] at matching
        cases matching

theorem Spells.refl (anyCase : Bool) (name : List Char) : Spells anyCase name name :=
  List.forall₂_same.mpr fun letter _ => matchesLetter_self letter

/-- As long as case matters there is one spelling. -/
theorem Spells.eq {letters : List Char} (spells : Spells false name letters) : letters = name := by
  induction spells with
  | nil => rfl
  | @cons letter char _ _ matching _ induction =>
      have same : char = letter := by simpa [matchesLetter] using matching
      rw [same, induction]

/-! ## Tags -/

theorem isWord_bracket : isWord '>' = false := by decide +kernel

/-- A word ends in front of a closing bracket. -/
theorem any_isWord_append_bracket (attributes rest : List Char) :
    (attributes ++ '>' :: rest).head?.any isWord = attributes.head?.any isWord := by
  cases attributes with
  | nil => rw [List.nil_append, List.head?_cons, Option.any_some, isWord_bracket]; rfl
  | cons first more => rfl

theorem afterStartTag?_eq_some_iff {source body : List Char} :
    afterStartTag? anyCase name source = some body ↔
      ∃ opening attributes, Spells anyCase ('<' :: name) opening ∧ '>' ∉ attributes ∧
        attributes.head?.any isWord = false ∧ source = opening ++ (attributes ++ '>' :: body) := by
  constructor
  · intro found
    rw [afterStartTag?] at found
    split at found
    · cases found
    · rename_i rest named
      rcases afterName?_eq_some_iff.mp named with ⟨opening, spells, rfl⟩
      split at found
      · cases found
      · rename_i wordEnds
        split at found
        · cases found
        · rename_i bracket tail tagEnd
          rcases Option.some.inj found with rfl
          have whole := List.takeWhile_append_dropWhile (p := (· != '>')) (l := rest)
          have stopped := List.head?_dropWhile_not (· != '>') rest
          rw [tagEnd] at whole stopped
          rcases (by simpa using stopped : bracket = '>') with rfl
          rw [← whole, any_isWord_append_bracket] at wordEnds
          refine ⟨opening, _, spells, ?_, Bool.eq_false_iff.mpr wordEnds, by rw [whole]⟩
          exact fun member => absurd (List.mem_takeWhile_imp member) (by decide)
  · rintro ⟨opening, attributes, spells, oneTag, wordEnds, rfl⟩
    have named : afterName? anyCase ('<' :: name) (opening ++ (attributes ++ '>' :: body)) =
        some (attributes ++ '>' :: body) := afterName?_eq_some_iff.mpr ⟨opening, spells, rfl⟩
    have passes : ∀ char ∈ attributes, (char != '>') = true := fun char member =>
      bne_iff_ne.mpr fun bracket : char = '>' => oneTag (bracket ▸ member)
    rw [afterStartTag?, named]
    dsimp only
    rw [any_isWord_append_bracket, wordEnds, List.dropWhile_append_of_pos passes]
    simp

def IsEndTag (anyCase : Bool) (name closing : List Char) : Prop :=
  ∃ letters blanks, Spells anyCase ('<' :: '/' :: name) letters ∧
    (∀ char ∈ blanks, isBlank char = true) ∧ closing = letters ++ (blanks ++ ['>'])

theorem afterEndTag?_eq_some_iff {source after : List Char} :
    afterEndTag? anyCase name source = some after ↔
      ∃ closing, IsEndTag anyCase name closing ∧ source = closing ++ after := by
  constructor
  · intro found
    rw [afterEndTag?] at found
    split at found
    · cases found
    · rename_i rest named
      rcases afterName?_eq_some_iff.mp named with ⟨letters, spells, rfl⟩
      split at found
      · rename_i tail trimmed
        rcases Option.some.inj found with rfl
        have whole := List.takeWhile_append_dropWhile (p := isBlank) (l := rest)
        rw [← trimStart, trimmed] at whole
        refine ⟨_, ⟨letters, rest.takeWhile isBlank, spells, fun _ => List.mem_takeWhile_imp, rfl⟩,
          ?_⟩
        conv => lhs; rw [← whole]
        simp
      · cases found
  · rintro ⟨closing, ⟨letters, blanks, spells, blank, rfl⟩, rfl⟩
    have named : afterName? anyCase ('<' :: '/' :: name) (letters ++ (blanks ++ '>' :: after)) =
        some (blanks ++ '>' :: after) := afterName?_eq_some_iff.mpr ⟨letters, spells, rfl⟩
    have trimmed : trimStart (blanks ++ '>' :: after) = '>' :: after := by
      rw [trimStart, List.dropWhile_append_of_pos blank]
      exact List.dropWhile_cons_of_neg (by decide)
    have whole : letters ++ (blanks ++ ['>']) ++ after = letters ++ (blanks ++ '>' :: after) := by
      simp
    rw [whole, afterEndTag?, named]
    simp only [trimmed]

theorem isSome_afterBody?_iff (text : List Char) :
    (afterBody? anyCase name text).isSome = true ↔
      ∃ body closing after, IsEndTag anyCase name closing ∧ text = body ++ (closing ++ after) := by
  constructor
  · intro found
    induction text with
    | nil => cases found
    | cons char rest induction =>
        rw [afterBody?] at found
        split at found
        · rename_i after ended
          rcases afterEndTag?_eq_some_iff.mp ended with ⟨closing, isEndTag, whole⟩
          exact ⟨[], closing, after, isEndTag, whole⟩
        · rcases induction found with ⟨body, closing, after, isEndTag, rfl⟩
          exact ⟨char :: body, closing, after, isEndTag, rfl⟩
  · rintro ⟨body, closing, after, isEndTag, rfl⟩
    induction body with
    | nil =>
        have ended : afterEndTag? anyCase name (closing ++ after) = some after :=
          afterEndTag?_eq_some_iff.mpr ⟨closing, isEndTag, rfl⟩
        rcases isEndTag with ⟨letters, blanks, spells, -, rfl⟩
        rcases spells.exists_bracket with ⟨rest, rfl⟩
        rw [List.nil_append]
        rw [List.cons_append, List.cons_append] at ended ⊢
        rw [afterBody?, ended]
        rfl
    | cons char body induction =>
        rw [List.cons_append, afterBody?]
        split
        · rfl
        · exact induction

end Source

end ChatMarkup
