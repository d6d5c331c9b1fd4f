import Mathlib.Data.String.Basic
import ChatMarkup.Proofs.ReferenceScan

/-!
The room that a decoded text takes. A reference is an ampersand, a body of two bytes or more and a
semicolon, and no character takes more than four bytes. So the scan never writes more than it has
read, and a buffer of the size of the text is large enough for all that it writes.
-/

namespace ChatMarkup.Text

namespace Reference

theorem byteSize_eq_utf8ByteSize (text : List Char) :
    byteSize text = (String.ofList text).utf8ByteSize := by
  rw [String.utf8ByteSize_ofList]
  induction text with
  | nil => rfl
  | cons char rest induction =>
      rw [byteSize_cons, induction, String.utf8Len_cons, Nat.add_comm]

/-! ## One reference -/

/-- A number has a digit behind its hash, and every name of the table has two letters. -/
theorem two_le_byteSize_of_body? {body : List Char} {char : Char} (read : body? body = some char) :
    2 ≤ byteSize body := by
  by_cases hash : body.head? = some '#'
  · rcases List.head?_eq_some_iff.mp hash with ⟨tail, rfl⟩
    cases tail with
    | nil => cases read
    | cons mark rest =>
        have hashSize := Char.utf8Size_pos '#'
        have markSize := mark.utf8Size_pos
        rw [byteSize_cons, byteSize_cons]
        omega
  · rw [body?_name hash] at read
    have words : ∀ entry ∈ names, 2 ≤ entry.1.utf8ByteSize := by decide +kernel
    rw [byteSize_eq_utf8ByteSize]
    exact words _ (mem_names read)

theorem utf8Size_le_of_sizedBody? {body : List Char} {char : Char}
    (decoded : sizedBody? body = some char) :
    char.utf8Size ≤ byteSize ('&' :: (body ++ [';'])) := by
  have atLeast := two_le_byteSize_of_body? (sizedBody?_eq_some_iff.mp decoded).2
  have around : byteSize ('&' :: (body ++ [';'])) = byteSize body + 2 := by
    rw [byteSize_cons, byteSize_append, Nat.add_comm]
    rfl
  calc
    char.utf8Size ≤ 4 := char.utf8Size_le_four
    _ ≤ byteSize body + 2 := Nat.add_le_add_right atLeast 2
    _ = byteSize ('&' :: (body ++ [';'])) := around.symm

/-! ## Rounds -/

/-- What a round writes and what it leaves take no more room than what it was given. -/
theorem byteSize_round?_le {text shown rest : List Char}
    (round : round? text = some (shown, some rest)) :
    byteSize shown + byteSize rest ≤ byteSize text := by
  rcases round?_cases text with ⟨-, last⟩ | ⟨before, body, char, left, rfl, -, decoded, found⟩ |
    ⟨before, after, rfl, -, -, kept⟩
  · rw [last] at round
    cases round
  · rw [found] at round
    cases round
    have fits := utf8Size_le_of_sizedBody? decoded
    simp only [byteSize_append, byteSize_cons, byteSize_nil] at fits ⊢
    omega
  · rw [kept] at round
    cases round
    simp only [byteSize_append, byteSize_cons, byteSize_nil]
    omega

/-- The states of a scan of `text` after some rounds: what has been written to the buffer, and what
is still to be read. -/
inductive Scanned (text : List Char) : List Char → List Char → Prop
  | start : Scanned text [] text
  | round {buffer rest shown next : List Char} (earlier : Scanned text buffer rest)
      (round : round? rest = some (shown, some next)) : Scanned text (buffer ++ shown) next

namespace Scanned

variable {text buffer rest : List Char}

theorem byteSize_le (scanned : Scanned text buffer rest) :
    byteSize buffer + byteSize rest ≤ byteSize text := by
  induction scanned with
  | start => exact Nat.le_of_eq (Nat.zero_add _)
  | round earlier round induction =>
      have fits := byteSize_round?_le round
      rw [byteSize_append]
      omega

theorem decodeReferences_eq (scanned : Scanned text buffer rest) :
    decodeReferences text = buffer ++ decodeReferences rest := by
  induction scanned with
  | start => rfl
  | @round buffer rest shown next earlier round induction =>
      have spec := round?_spec rest
      rw [round] at spec
      rw [induction, spec.2, List.append_assoc]

/-- The scan goes on until no ampersand is left. -/
theorem exists_end (scanned : Scanned text buffer rest) :
    ∃ buffer rest, Scanned text buffer rest ∧ '&' ∉ rest := by
  induction size : rest.length using Nat.strongRecOn generalizing buffer rest with
  | ind size induction =>
      subst size
      rcases round?_cases rest with ⟨free, -⟩ | ⟨_, _, _, next, -, -, -, round⟩ |
        ⟨_, next, -, -, -, round⟩
      · exact ⟨buffer, rest, scanned, free⟩
      · exact induction _ (length_lt_of_round? round) (scanned.round round) rfl
      · exact induction _ (length_lt_of_round? round) (scanned.round round) rfl

end Scanned

theorem byteSize_decodeReferences_le (text : List Char) :
    byteSize (decodeReferences text) ≤ byteSize text := by
  have begun : Scanned text [] text := .start
  rcases begun.exists_end with ⟨buffer, rest, scanned, free⟩
  rw [scanned.decodeReferences_eq, decodeReferences_of_free free, byteSize_append]
  exact scanned.byteSize_le

end Reference

/-- A decoded text has no more bytes of UTF-8 than the text. All along the scan, what has been
written is the beginning of the decoded text, and with what is left it has no more bytes either,
because no reference has fewer than its character. -/
theorem decoded_fits (text : List Char) :
    (String.ofList (decodeReferences text)).utf8ByteSize ≤ (String.ofList text).utf8ByteSize ∧
      (∀ buffer rest, Reference.Scanned text buffer rest →
        decodeReferences text = buffer ++ decodeReferences rest ∧
          (String.ofList (buffer ++ rest)).utf8ByteSize ≤ (String.ofList text).utf8ByteSize) ∧
      ∀ body char, Reference.sizedBody? body = some char →
        char.utf8Size ≤ (String.ofList ('&' :: (body ++ [';']))).utf8ByteSize := by
  simp only [← Reference.byteSize_eq_utf8ByteSize]
  refine ⟨Reference.byteSize_decodeReferences_le text, fun buffer rest scanned => ?_,
    fun body char => Reference.utf8Size_le_of_sizedBody?⟩
  rw [Reference.byteSize_append]
  exact ⟨scanned.decodeReferences_eq, scanned.byteSize_le⟩

theorem decoded_fits_replaced :
    let text := "é&#+0;&Mu;&#x10FFFF;".toList
    let left := "&Mu;&#x10FFFF;".toList
    Reference.Scanned text "é\uFFFD".toList left ∧
      decodeReferences text = "é\uFFFD".toList ++ decodeReferences left ∧
      (String.ofList ("é\uFFFD".toList ++ left)).utf8ByteSize ≤ (String.ofList text).utf8ByteSize ∧
      Reference.sizedBody? "#x10FFFF".toList = some (Char.ofNat 0x10FFFF) ∧
      (Char.ofNat 0x10FFFF).utf8Size ≤ (String.ofList "&#x10FFFF;".toList).utf8ByteSize := by
  intro text left
  rcases decoded_fits text with ⟨-, room, single⟩
  have scanned : Reference.Scanned text "é\uFFFD".toList left :=
    Reference.Scanned.start.round (by decide +kernel)
  have decoded : Reference.sizedBody? "#x10FFFF".toList = some (Char.ofNat 0x10FFFF) := by
    decide +kernel
  rcases room _ _ scanned with ⟨beginning, fits⟩
  exact ⟨scanned, beginning, fits, decoded, single _ _ decoded⟩

end ChatMarkup.Text
