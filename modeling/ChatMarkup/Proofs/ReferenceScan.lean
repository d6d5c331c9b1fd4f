import ChatMarkup.Proofs.ReferenceDecoding

/-!
Decoding as a scan over the bytes of a text. The scan goes from ampersand to ampersand, measures
what may be a reference in bytes and cuts the text at byte offsets. Every offset that it cuts at is
a boundary between two characters, and what it gives is the decoded text.
-/

namespace ChatMarkup.Text.Reference

/-! ## Offsets -/

def offset? (wanted : Char) : List Char → Option Nat
  | [] => none
  | char :: rest =>
    if char = wanted then some 0 else (offset? wanted rest).map (char.utf8Size + ·)

/-- The text before and after so many bytes, if no character is cut through. -/
def cut? : Nat → List Char → Option (List Char × List Char)
  | 0, text => some ([], text)
  | _ + 1, [] => none
  | size, char :: rest =>
    if size < char.utf8Size then none
    else (cut? (size - char.utf8Size) rest).map fun (front, back) => (char :: front, back)

example : cut? 2 "é;".toList = some (['é'], [';']) := by decide +kernel

example : cut? 1 "é;".toList = none := by decide +kernel

theorem offset?_of_free {wanted : Char} {text : List Char} (free : wanted ∉ text) :
    offset? wanted text = none := by
  induction text with
  | nil => rfl
  | cons char rest induction =>
      rw [List.mem_cons, not_or] at free
      rw [offset?, if_neg (Ne.symm free.1), induction free.2]
      rfl

theorem offset?_append {wanted : Char} {front : List Char} (free : wanted ∉ front)
    (back : List Char) : offset? wanted (front ++ wanted :: back) = some (byteSize front) := by
  induction front with
  | nil => exact if_pos rfl
  | cons char rest induction =>
      rw [List.mem_cons, not_or] at free
      rw [List.cons_append, offset?, if_neg (Ne.symm free.1), induction free.2]
      rfl

theorem cut?_cons {size : Nat} (positive : 0 < size) (char : Char) (rest : List Char) :
    cut? size (char :: rest) =
      if size < char.utf8Size then none
      else (cut? (size - char.utf8Size) rest).map fun (front, back) => (char :: front, back) := by
  rw [cut?]
  exact Nat.ne_of_gt positive

theorem cut?_append (front back : List Char) :
    cut? (byteSize front) (front ++ back) = some (front, back) := by
  induction front with
  | nil => rw [byteSize, List.foldr_nil, cut?, List.nil_append]
  | cons char rest induction =>
      have positive := Nat.add_pos_left char.utf8Size_pos (byteSize rest)
      rw [byteSize_cons, List.cons_append, cut?_cons positive, if_neg (by omega),
        Nat.add_sub_cancel_left, induction]
      rfl

/-- The offsets where a text can be cut are the sizes of its beginnings. -/
theorem cut?_eq_some_iff {size : Nat} {text front back : List Char} :
    cut? size text = some (front, back) ↔ text = front ++ back ∧ byteSize front = size := by
  constructor
  · intro cut
    induction text generalizing size front with
    | nil =>
        cases size <;> cases cut
        exact ⟨rfl, rfl⟩
    | cons char rest induction =>
        rcases Nat.eq_zero_or_pos size with rfl | positive
        · cases cut
          exact ⟨rfl, rfl⟩
        rw [cut?_cons positive] at cut
        split at cut
        · cases cut
        · rename_i fits
          rcases Option.map_eq_some_iff.mp cut with ⟨⟨others, _⟩, inRest, same⟩
          cases same
          rcases induction inRest with ⟨whole, others⟩
          refine ⟨congrArg (char :: ·) whole, ?_⟩
          rw [byteSize_cons, others]
          omega
  · rintro ⟨rfl, rfl⟩
    exact cut?_append front back

/-! ## Rounds -/

/-- The character that a reference right after an ampersand stands for, and the size of its body.
The outer option is for a cut through a character. -/
def measured? (after : List Char) : Option (Option (Char × Nat)) :=
  match offset? ';' after with
  | none => some none
  | some size =>
    if 0 < size ∧ size ≤ maxBodySize then
      (cut? size after).map fun (body, _) => (body? body).map (·, size)
    else some none

/-- What the text up to its first ampersand and the reference there is decoded to, and the text
that is scanned after that, if there is an ampersand. -/
def round? (text : List Char) : Option (List Char × Option (List Char)) := do
  match offset? '&' text with
  | none => return (text, none)
  | some offset =>
    let (before, _) ← cut? offset text
    let (_, after) ← cut? (offset + 1) text
    match ← measured? after with
    | some (char, size) =>
      let (_, rest) ← cut? (size + 1) after
      return (before ++ [char], some rest)
    | none => return (before ++ ['&'], some after)

theorem round?_of_free {text : List Char} (free : '&' ∉ text) :
    round? text = some (text, none) := by
  rw [round?, offset?_of_free free]
  rfl

theorem measured?_reference {body : List Char} {char : Char} (decoded : sizedBody? body = some char)
    (rest : List Char) : measured? (body ++ ';' :: rest) = some (some (char, byteSize body)) := by
  have unended : ';' ∉ body := notMem_of_sizedBody? (by decide) decoded
  rcases sizedBody?_eq_some_iff.mp decoded with ⟨fits, read⟩
  rw [measured?, offset?_append unended]
  simp only [if_pos fits, cut?_append, Option.map_some, read]

theorem measured?_kept {after : List Char} (noReference : ¬StartsReference ('&' :: after)) :
    measured? after = some none := by
  by_cases ended : ';' ∈ after
  · rcases List.eq_append_cons_of_mem ended with ⟨body, rest, rfl, unended⟩
    rw [measured?, offset?_append unended]
    dsimp only
    split
    · rename_i fits
      have unread : body? body = none := by
        rw [Option.eq_none_iff_forall_ne_some]
        intro char read
        exact noReference ⟨body, char, rest, rfl, sizedBody?_eq_some_iff.mpr ⟨fits, read⟩⟩
      rw [cut?_append, Option.map_some, unread]
      rfl
    · rfl
  · rw [measured?, offset?_of_free ended]

theorem cut?_append_cons (front : List Char) {char : Char} (single : char.utf8Size = 1)
    (back : List Char) :
    cut? (byteSize front + 1) (front ++ char :: back) = some (front ++ [char], back) := by
  rw [cut?_eq_some_iff, byteSize_append, byteSize_cons, single]
  exact ⟨by simp, rfl⟩

theorem round?_reference {before body : List Char} {char : Char} (free : '&' ∉ before)
    (decoded : sizedBody? body = some char) (rest : List Char) :
    round? (before ++ '&' :: (body ++ ';' :: rest)) = some (before ++ [char], some rest) := by
  have start := cut?_append_cons before (rfl : '&'.utf8Size = 1) (body ++ ';' :: rest)
  have stop := cut?_append_cons body (rfl : ';'.utf8Size = 1) rest
  rw [round?, offset?_append free]
  simp only [cut?_append, start, stop, measured?_reference decoded, Option.bind_eq_bind,
    Option.bind_some]
  rfl

theorem round?_kept {before after : List Char} (free : '&' ∉ before)
    (noReference : ¬StartsReference ('&' :: after)) :
    round? (before ++ '&' :: after) = some (before ++ ['&'], some after) := by
  have start := cut?_append_cons before (rfl : '&'.utf8Size = 1) after
  rw [round?, offset?_append free]
  simp only [cut?_append, start, measured?_kept noReference, Option.bind_eq_bind,
    Option.bind_some]
  rfl

/-- What a round can come upon: no ampersand, an ampersand with a reference behind it, or one
without. It cuts through no character. -/
theorem round?_cases (text : List Char) :
    ('&' ∉ text ∧ round? text = some (text, none)) ∨
      (∃ before body char rest, text = before ++ '&' :: (body ++ ';' :: rest) ∧ '&' ∉ before ∧
        sizedBody? body = some char ∧ round? text = some (before ++ [char], some rest)) ∨
      ∃ before after, text = before ++ '&' :: after ∧ '&' ∉ before ∧
        ¬StartsReference ('&' :: after) ∧ round? text = some (before ++ ['&'], some after) := by
  by_cases member : '&' ∈ text
  · rcases List.eq_append_cons_of_mem member with ⟨before, after, rfl, free⟩
    by_cases starts : StartsReference ('&' :: after)
    · rcases starts with ⟨body, char, rest, whole, decoded⟩
      cases whole
      exact .inr (.inl ⟨before, body, char, rest, rfl, free, decoded,
        round?_reference free decoded rest⟩)
    · exact .inr (.inr ⟨before, after, rfl, free, starts, round?_kept free starts⟩)
  · exact .inl ⟨member, round?_of_free member⟩

/-- Decoding goes on with the text that a round leaves. -/
theorem round?_spec (text : List Char) :
    match round? text with
    | none => False
    | some (shown, none) => decodeReferences text = shown
    | some (shown, some rest) =>
      rest.length < text.length ∧ decodeReferences text = shown ++ decodeReferences rest := by
  rcases round?_cases text with ⟨free, round⟩ |
    ⟨before, body, char, rest, rfl, free, decoded, round⟩ |
    ⟨before, after, rfl, free, noReference, round⟩
  · rw [round]
    exact decodeReferences_of_free free
  · rw [round, decodeReferences_append_ampersand, decodeReferences_of_free free,
      decodeReferences_reference decoded]
    refine ⟨?_, List.append_cons _ _ _⟩
    simp only [List.length_append, List.length_cons]
    omega
  · rw [round, decodeReferences_append_ampersand, decodeReferences_of_free free,
      decodeReferences_kept noReference]
    refine ⟨?_, List.append_cons _ _ _⟩
    simp only [List.length_append, List.length_cons]
    omega

theorem length_lt_of_round? {text shown rest : List Char}
    (round : round? text = some (shown, some rest)) : rest.length < text.length := by
  have spec := round?_spec text
  rw [round] at spec
  exact spec.1

/-! ## The whole scan -/

/-- Round after round until there is no ampersand, unless a character is cut through. -/
def scan? (text : List Char) : Option (List Char) :=
  match _round : round? text with
  | none => none
  | some (shown, none) => some shown
  | some (shown, some rest) => (scan? rest).map (shown ++ ·)
termination_by text.length
decreasing_by exact length_lt_of_round? _round

theorem scan?_eq (text : List Char) : scan? text = some (decodeReferences text) := by
  induction size : text.length using Nat.strongRecOn generalizing text with
  | ind size induction =>
      subst size
      have spec := round?_spec text
      rw [scan?]
      split
      · rename_i round
        rw [round] at spec
        exact spec.elim
      · rename_i shown round
        rw [round] at spec
        rw [spec]
      · rename_i shown rest round
        rw [round] at spec
        rw [induction _ spec.1 rest rfl, spec.2]
        rfl

end ChatMarkup.Text.Reference
