import Mathlib.Data.List.Forall2
import ChatMarkup.Document.Tree
import ChatMarkup.Proofs.ReferenceDecoding

/-!
A text whose characters are written as they are or as references, each in a way of its own, comes
back when its references are decoded. A text that is written as markup is one of these.
-/

namespace ChatMarkup.Text

open Document

namespace Reference

/-! ## Numerals -/

theorem digit?_digitChar {base digit : Nat} (limit : base ≤ 16) (small : digit < base) :
    digit? base digit.digitChar = some digit := by
  have each : ∀ base < 17, ∀ digit < base, digit? base digit.digitChar = some digit := by
    decide +kernel
  exact each base (Nat.lt_succ_of_le limit) digit small

/-- Numerals are read back in the base in which they were written. -/
theorem digitsFrom?_toDigits {base : Nat} (several : 1 < base) (limit : base ≤ 16) (code : Nat) :
    digitsFrom? base 0 (Nat.toDigits base code) = some code := by
  induction code using Nat.strongRecOn with
  | ind code induction =>
      rw [Nat.toDigits_eq_if several]
      split
      · rename_i small
        rw [digitsFrom?, digit?_digitChar limit small]
        simp [digitsFrom?]
      · rename_i large
        have positive : 0 < base := Nat.zero_lt_of_lt several
        have smaller : code / base < code := Nat.div_lt_self (by omega) several
        rw [digitsFrom?_append, induction _ smaller, Option.bind_some, digitsFrom?,
          digit?_digitChar limit (Nat.mod_lt code positive)]
        simp [digitsFrom?, Nat.div_add_mod']

section Numeral

variable {base code : Nat} {digits : List Char} (read : digitsFrom? base 0 digits = some code)
include read

theorem isSome_digit?_of_mem {char : Char} (member : char ∈ digits) :
    (digit? base char).isSome = true := by
  have all := isSome_digitsFrom? base 0 digits
  rw [read] at all
  exact List.all_eq_true.mp all.symm char member

theorem number?_of_digitsFrom? (nonempty : digits ≠ []) : number? base digits = some code := by
  cases digits with
  | nil => exact absurd rfl nonempty
  | cons char rest =>
      have noSign : char ≠ '+' := by
        rintro rfl
        cases isSome_digit?_of_mem read List.mem_cons_self
      rw [number?_unsigned noSign, read]

/-- A digit is one byte. -/
theorem byteSize_digits : byteSize digits = digits.length := by
  have bytes : ∀ char ∈ digits, char.utf8Size = 1 := by
    intro char member
    have small := toNat_lt_of_digit? (isSome_digit?_of_mem read member)
    exact Char.utf8Size_eq_one_iff.mpr (Nat.le_of_lt_succ small)
  clear read
  induction digits with
  | nil => rfl
  | cons char rest induction =>
      have others := induction fun other member => bytes other (List.mem_cons_of_mem char member)
      rw [byteSize_cons, others, bytes char List.mem_cons_self, List.length_cons, Nat.add_comm]

end Numeral

/-! ## References to one character -/

theorem ofCodePoint_toNat {char : Char} (notNull : char ≠ '\x00') :
    ofCodePoint char.toNat = char := by
  rw [ofCodePoint, if_neg, Char.ofNat_toNat]
  rintro (zero | invalid)
  · exact notNull (Char.toNat_inj.mp zero)
  · exact invalid char.valid

theorem toNat_lt_codePoints (char : Char) : char.toNat < 0x110000 := by
  rcases char.valid with low | high
  · exact Nat.lt_trans low (by decide)
  · exact high.2

theorem sizedBody?_name {name : String} {char : Char} (found : named? name = some char) :
    sizedBody? name.toList = some char := by
  have fitting : ∀ entry ∈ names, 0 < byteSize entry.1.toList ∧
      byteSize entry.1.toList ≤ maxBodySize := by decide +kernel
  have sizes := fitting _ (mem_names found)
  have noHash : name.toList.head? ≠ some '#' := by
    intro hash
    rcases List.head?_eq_some_iff.mp hash with ⟨rest, spelled⟩
    have named : isName name.toList = true := by
      rw [isName, String.ofList_toList, found]
      rfl
    rw [spelled, isName_hash] at named
    cases named
  exact sizedBody?_eq_some_iff.mpr
    ⟨sizes, by rw [body?_name noHash, String.ofList_toList, found]⟩

/-- The number of a character, behind what shows its base. -/
theorem sizedBody?_digits {base : Nat} (front digits : List Char) {char : Char}
    (numbered : body? (front ++ digits) = (number? base digits).map ofCodePoint)
    (opened : 0 < byteSize front) (fits : byteSize front + digits.length ≤ maxBodySize)
    (read : digitsFrom? base 0 digits = some char.toNat) (nonempty : digits ≠ [])
    (notNull : char ≠ '\x00') : sizedBody? (front ++ digits) = some char := by
  rw [sizedBody?_eq_some_iff, byteSize_append, byteSize_digits read, numbered,
    number?_of_digitsFrom? read nonempty, Option.map_some, ofCodePoint_toNat notNull]
  exact ⟨⟨Nat.add_pos_left opened _, fits⟩, rfl⟩

theorem sizedBody?_decimal {char : Char} (notNull : char ≠ '\x00') :
    sizedBody? ('#' :: Nat.toDigits 10 char.toNat) = some char := by
  have read : digitsFrom? 10 0 (Nat.toDigits 10 char.toNat) = some char.toNat :=
    digitsFrom?_toDigits (by decide) (by decide) char.toNat
  have short : (Nat.toDigits 10 char.toNat).length ≤ 7 :=
    (Nat.length_toDigits_le_iff (by decide) (by decide)).mpr
      (Nat.lt_of_lt_of_le (toNat_lt_codePoints char) (by decide))
  have numbered : body? ('#' :: Nat.toDigits 10 char.toNat) =
      (number? 10 (Nat.toDigits 10 char.toNat)).map ofCodePoint := by
    rcases List.exists_cons_of_ne_nil (@Nat.toDigits_ne_nil char.toNat 10) with
      ⟨first, rest, digits⟩
    rw [digits] at read ⊢
    have noMark : isHexMark first = false := by
      have digit := isSome_digit?_of_mem read List.mem_cons_self
      rw [Bool.eq_false_iff, isHexMark, ne_eq, Bool.or_eq_true, beq_iff_eq, beq_iff_eq]
      rintro (rfl | rfl) <;> cases digit
    rw [body?_number, noMark]
    rfl
  refine sizedBody?_digits ['#'] (Nat.toDigits 10 char.toNat) numbered (by decide) ?_ read
    Nat.toDigits_ne_nil notNull
  rw [maxBodySize, (by decide : byteSize ['#'] = 1)]
  omega

theorem sizedBody?_hexadecimal {mark char : Char} {digits : List Char}
    (hex : isHexMark mark = true) (notNull : char ≠ '\x00')
    (spelled : digits.map Char.toLower = Nat.toDigits 16 char.toNat) :
    sizedBody? ('#' :: mark :: digits) = some char := by
  have read : digitsFrom? 16 0 digits = some char.toNat := by
    rw [← digitsFrom?_map_toLower, spelled]
    exact digitsFrom?_toDigits (by decide) (by decide) char.toNat
  have short : (Nat.toDigits 16 char.toNat).length ≤ 6 :=
    (Nat.length_toDigits_le_iff (by decide) (by decide)).mpr
      (Nat.lt_of_lt_of_le (toNat_lt_codePoints char) (by decide))
  rw [← spelled, List.length_map] at short
  have nonempty : digits ≠ [] := by
    rintro rfl
    exact Nat.toDigits_ne_nil spelled.symm
  have numbered : body? ('#' :: mark :: digits) = (number? 16 digits).map ofCodePoint := by
    rw [body?_number, if_pos hex]
  have frontSize : byteSize ['#', mark] = 2 := by
    rw [isHexMark, Bool.or_eq_true, beq_iff_eq, beq_iff_eq] at hex
    rcases hex with rfl | rfl <;> decide
  refine sizedBody?_digits ['#', mark] digits numbered ?_ ?_ read nonempty notNull
  · rw [frontSize]
    decide
  · rw [maxBodySize, frontSize]
    omega

/-! ## Encoded texts -/

/-- A character is written as it is or as a reference, by a name or by its number. -/
inductive Encodes : Char → List Char → Prop where
  | plain {char : Char} (different : char ≠ '&') : Encodes char [char]
  | named (name : String) {char : Char} (found : named? name = some char) :
      Encodes char ('&' :: (name.toList ++ [';']))
  | decimal {char : Char} (notNull : char ≠ '\x00') :
      Encodes char ('&' :: '#' :: (Nat.toDigits 10 char.toNat ++ [';']))
  /-- The digits are of either case, and there are no leading zeros. -/
  | hexadecimal {mark char : Char} {digits : List Char} (hex : isHexMark mark = true)
      (notNull : char ≠ '\x00')
      (spelled : digits.map Char.toLower = Nat.toDigits 16 char.toNat) :
      Encodes char ('&' :: '#' :: mark :: (digits ++ [';']))

theorem Encodes.decode {char : Char} {piece : List Char} (encodes : Encodes char piece)
    (rest : List Char) : decodeReferences (piece ++ rest) = char :: decodeReferences rest := by
  have reference (body : List Char) (decoded : sizedBody? body = some char) :
      decodeReferences ('&' :: (body ++ [';']) ++ rest) = char :: decodeReferences rest := by
    rw [List.cons_append, List.append_assoc, List.singleton_append,
      decodeReferences_reference decoded]
  cases encodes with
  | plain different => exact decodeReferences_cons different rest
  | named name found => exact reference _ (sizedBody?_name found)
  | decimal notNull => exact reference _ (sizedBody?_decimal notNull)
  | hexadecimal hex notNull spelled =>
      exact reference _ (sizedBody?_hexadecimal hex notNull spelled)

theorem encodes_escape (char : Char) : Encodes char (Tree.escape false char) := by
  by_cases isAmpersand : char = '&'
  · subst isAmpersand
    exact .named "amp" (by decide +kernel)
  by_cases isSpace : char = '\u00A0'
  · subst isSpace
    exact .named "nbsp" (by decide +kernel)
  by_cases isLess : char = '<'
  · subst isLess
    exact .named "lt" (by decide +kernel)
  by_cases isGreater : char = '>'
  · subst isGreater
    exact .named "gt" (by decide +kernel)
  have written : Tree.escape false char = [char] := by
    simp [Tree.escape, isAmpersand, isSpace, isLess, isGreater]
  rw [written]
  exact .plain isAmpersand

end Reference

/-- Pieces do not run into each other: each is decoded on its own. -/
theorem decodeReferences_flatten {text : List Char} {pieces : List (List Char)}
    (encoded : List.Forall₂ Reference.Encodes text pieces) :
    decodeReferences pieces.flatten = text := by
  induction encoded with
  | nil => rfl
  | cons encodes others induction =>
      rw [List.flatten_cons, encodes.decode, induction]

theorem forall₂_escape (text : List Char) :
    List.Forall₂ Reference.Encodes text (text.map (Tree.escape false)) := by
  rw [List.forall₂_map_right_iff, List.forall₂_same]
  exact fun char member => Reference.encodes_escape char

theorem decodeReferences_escape (text : List Char) :
    decodeReferences (text.flatMap (Tree.escape false)) = text := by
  rw [List.flatMap_def, decodeReferences_flatten (forall₂_escape text)]

/-- A text comes back from its characters as they were written, in whichever way each of them was,
and so does a text that was written as markup. -/
theorem decode_encoded (text : List Char) :
    (∀ pieces, List.Forall₂ Reference.Encodes text pieces →
      decodeReferences pieces.flatten = text) ∧
    decodeReferences (text.flatMap (Tree.escape false)) = text :=
  ⟨fun _ => decodeReferences_flatten, decodeReferences_escape text⟩

theorem decode_encoded_mixed :
    decodeReferences "&amp;lt;&#233;&#X1f60A;#".toList = ['&', 'l', 't', ';', 'é', '😊', '#'] := by
  have ampersand : Reference.Encodes '&' ('&' :: ("amp".toList ++ [';'])) :=
    .named "amp" (by decide +kernel)
  have decimal : Reference.Encodes 'é' ('&' :: '#' :: (Nat.toDigits 10 'é'.toNat ++ [';'])) :=
    .decimal (by decide)
  have hexadecimal : Reference.Encodes '😊' ('&' :: '#' :: 'X' :: ("1f60A".toList ++ [';'])) :=
    .hexadecimal (by decide) (by decide) (by decide +kernel)
  refine Eq.trans (congrArg decodeReferences (by decide +kernel)) <| (decode_encoded _).1 _ <|
    .cons ampersand <| .cons (.plain ?_) <| .cons (.plain ?_) <| .cons (.plain ?_) <|
      .cons decimal <| .cons hexadecimal <| .cons (.plain ?_) .nil
  all_goals decide

end ChatMarkup.Text
