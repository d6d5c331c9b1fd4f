import Mathlib.Data.List.TakeDrop
import Mathlib.Data.List.TakeWhile
import ChatMarkup.Proofs.ReferenceGrammar

/-!
Decoding a text from its front. Either a reference stands there and is replaced, or the first
character is kept; what comes after that is decoded as if it were the whole text.
-/

namespace ChatMarkup.Text

/-! ## Stretches -/

theorem splitAtChar_eq_cons (separator : Char) (text : List Char) :
    ∃ front stretches, splitAtChar separator text = front :: stretches :=
  List.exists_cons_of_ne_nil (splitAtChar_ne_nil separator text)

theorem span_of_free {stop : Char} {front : List Char} (free : stop ∉ front) (back : List Char) :
    (front ++ stop :: back).span (· != stop) = (front, stop :: back) := by
  have passes : ∀ char ∈ front, (char != stop) = true := by
    intro char member
    rw [bne_iff_ne]
    rintro rfl
    exact free member
  rw [List.span_eq_takeWhile_dropWhile, List.takeWhile_append_of_pos passes,
    List.dropWhile_append_of_pos passes]
  simp

/-- A reference at the start of a stretch stands for its character. -/
theorem decodeStretch_reference {body : List Char} {char : Char}
    (decoded : Reference.sizedBody? body = some char) (rest : List Char) :
    Reference.decodeStretch (body ++ ';' :: rest) = char :: rest := by
  have unended : ';' ∉ body := Reference.notMem_of_sizedBody? (by decide) decoded
  rw [Reference.decodeStretch, span_of_free unended]
  simp only [decoded]

/-! ## The front of a text -/

theorem decodeReferences_cons {char : Char} (different : char ≠ '&') (rest : List Char) :
    decodeReferences (char :: rest) = char :: decodeReferences rest := by
  rcases splitAtChar_eq_cons '&' rest with ⟨front, stretches, split⟩
  rw [decodeReferences, decodeReferences, splitAtChar, if_neg different, split]
  rfl

theorem decodeReferences_ampersand (rest : List Char) :
    decodeReferences ('&' :: rest) = (splitAtChar '&' rest).flatMap Reference.decodeStretch := by
  rw [decodeReferences, splitAtChar, if_pos rfl]
  rfl

theorem decodeReferences_reference {body : List Char} {char : Char}
    (decoded : Reference.sizedBody? body = some char) (rest : List Char) :
    decodeReferences ('&' :: (body ++ ';' :: rest)) = char :: decodeReferences rest := by
  rcases splitAtChar_eq_cons '&' rest with ⟨front, stretches, split⟩
  have ended : splitAtChar '&' (';' :: rest) = (';' :: front) :: stretches := by
    rw [splitAtChar, if_neg (by decide), split]
  have plain : '&' ∉ body := Reference.notMem_of_sizedBody? (by decide) decoded
  rw [decodeReferences_ampersand, decodeReferences, splitAtChar_append_of_free plain ended, split]
  simp only [List.flatMap_cons, decodeStretch_reference decoded, List.cons_append]

def StartsReference (text : List Char) : Prop :=
  ∃ body char rest, text = '&' :: (body ++ ';' :: rest) ∧ Reference.sizedBody? body = some char

theorem StartsReference.append {text : List Char} (starts : StartsReference text)
    (more : List Char) : StartsReference (text ++ more) := by
  rcases starts with ⟨body, char, rest, rfl, decoded⟩
  exact ⟨body, char, rest ++ more, by simp, decoded⟩

theorem decodeStretch_kept {stretch : List Char} (none : ¬StartsReference ('&' :: stretch)) :
    Reference.decodeStretch stretch = '&' :: stretch := by
  rw [Reference.decodeStretch, List.span_eq_takeWhile_dropWhile]
  dsimp only
  split
  · rename_i semicolon after char dropped decoded
    have ended : semicolon = ';' := by
      have stopped := List.head?_dropWhile_not (· != ';') stretch
      rw [dropped] at stopped
      simpa using stopped
    have parts := @List.takeWhile_append_dropWhile _ (· != ';') stretch
    rw [dropped, ended] at parts
    exact absurd ⟨_, char, after, congrArg ('&' :: ·) parts.symm, decoded⟩ none
  · rfl

theorem decodeReferences_kept {char : Char} {rest : List Char}
    (none : ¬StartsReference (char :: rest)) :
    decodeReferences (char :: rest) = char :: decodeReferences rest := by
  by_cases different : char ≠ '&'
  · exact decodeReferences_cons different rest
  rw [not_not] at different
  subst different
  rcases splitAtChar_eq_cons '&' rest with ⟨front, stretches, split⟩
  have whole := joinWithChar_splitAtChar '&' rest
  rw [split, joinWithChar_cons_eq_flatMap] at whole
  have noneInFront : ¬StartsReference ('&' :: front) := by
    intro starts
    have more := starts.append (stretches.flatMap ('&' :: ·))
    rw [List.cons_append, whole] at more
    exact none more
  rw [decodeReferences_ampersand, decodeReferences, split, List.flatMap_cons,
    decodeStretch_kept noneInFront]
  rfl

/-- What holds of the empty text, and is kept in front of a text by a character that begins no
reference and by a reference, holds of every text and what it is decoded to. -/
theorem decodeReferences_induction {motive : List Char → List Char → Prop} (nil : motive [] [])
    (kept : ∀ char rest, ¬StartsReference (char :: rest) → motive rest (decodeReferences rest) →
      motive (char :: rest) (char :: decodeReferences rest))
    (reference : ∀ body char rest, Reference.sizedBody? body = some char →
      motive rest (decodeReferences rest) →
        motive ('&' :: (body ++ ';' :: rest)) (char :: decodeReferences rest))
    (text : List Char) : motive text (decodeReferences text) := by
  induction size : text.length using Nat.strongRecOn generalizing text with
  | ind size induction =>
      subst size
      by_cases starts : StartsReference text
      · rcases starts with ⟨body, char, rest, rfl, decoded⟩
        have shorter : rest.length < ('&' :: (body ++ ';' :: rest)).length := by
          simp only [List.length_cons, List.length_append]
          omega
        rw [decodeReferences_reference decoded]
        exact reference body char rest decoded (induction _ shorter rest rfl)
      · cases text with
        | nil => exact nil
        | cons char rest =>
            rw [decodeReferences_kept starts]
            exact kept char rest starts (induction _ (Nat.lt_succ_self _) rest rfl)

/-! ## Cutting a text in two -/

theorem decodeReferences_append_ampersand (before after : List Char) :
    decodeReferences (before ++ '&' :: after) =
      decodeReferences before ++ decodeReferences ('&' :: after) := by
  rcases splitAtChar_eq_cons '&' before with ⟨front, stretches, split⟩
  rw [decodeReferences_ampersand, decodeReferences, decodeReferences,
    splitAtChar_append_separator, split]
  simp only [List.cons_append, List.flatMap_append, List.append_assoc]

/-- The first separator of a text stands in front of any other one, or is that one. -/
theorem eq_or_exists_of_append_separator {separator : Char} {left right front back : List Char}
    (free : separator ∉ left) (whole : left ++ separator :: right = front ++ separator :: back) :
    (front = left ∧ right = back) ∨
      ∃ middle, front = left ++ separator :: middle ∧ right = middle ++ separator :: back := by
  rcases List.append_eq_append_iff.mp whole with
    ⟨middle, inFront, inRight⟩ | ⟨middle, inLeft, inBack⟩
  · cases middle with
    | nil => exact .inl ⟨inFront.trans (List.append_nil left), (List.cons.inj inRight).2⟩
    | cons first rest =>
        cases inRight
        exact .inr ⟨rest, inFront, rfl⟩
  · cases middle with
    | nil =>
        exact .inl ⟨((List.append_nil front).symm.trans inLeft.symm),
          (List.cons.inj inBack).2.symm⟩
    | cons first rest =>
        cases inBack
        exact absurd (inLeft ▸ List.mem_append_right front List.mem_cons_self) free

theorem decodeReferences_append_semicolon (before after : List Char) :
    decodeReferences (before ++ ';' :: after) =
      decodeReferences (before ++ [';']) ++ decodeReferences after := by
  -- A reference in front of the semicolon ends before it or at it, because its body has none.
  refine decodeReferences_induction (motive := fun text result => ∀ before,
    text = before ++ ';' :: after →
      result = decodeReferences (before ++ [';']) ++ decodeReferences after) ?_ ?_ ?_ _ before rfl
  · intro before whole
    cases before <;> cases whole
  · intro char rest none induction before whole
    cases before with
    | nil =>
        cases whole
        rw [List.nil_append, decodeReferences_cons (by decide)]
        rfl
    | cons first tail =>
        cases whole
        have fewer : ¬StartsReference (char :: (tail ++ [';'])) := by
          intro starts
          refine none ?_
          simpa using starts.append after
        rw [induction tail rfl, List.cons_append, decodeReferences_kept fewer, List.cons_append]
  · intro body char rest decoded induction before whole
    cases before with
    | nil => cases whole
    | cons first tail =>
        rcases List.cons.inj whole with ⟨rfl, joined⟩
        have unended : ';' ∉ body := Reference.notMem_of_sizedBody? (by decide) decoded
        rcases eq_or_exists_of_append_separator unended joined with
          ⟨rfl, rfl⟩ | ⟨middle, rfl, inRest⟩
        · rw [List.cons_append, decodeReferences_reference decoded]
          rfl
        · rw [induction middle inRest, List.cons_append, List.append_assoc, List.cons_append,
            decodeReferences_reference decoded, List.cons_append]

/-! ## Texts without references -/

theorem decodeReferences_of_free {text : List Char} (free : '&' ∉ text) :
    decodeReferences text = text := by
  induction text with
  | nil => rfl
  | cons char rest induction =>
      rw [List.mem_cons, not_or] at free
      rw [decodeReferences_cons (Ne.symm free.1), induction free.2]

end ChatMarkup.Text
