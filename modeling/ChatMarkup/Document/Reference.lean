import ChatMarkup.Document.Reference.Names

/-!
What a character reference on a page stands for. A name may end with a semicolon, and some names may
do without. Numbers that are no characters, and those that an old character set used for others, are
replaced.
-/

namespace ChatMarkup.Document.Reference

/-! ## Names -/

def named? (name : List Char) : Option (List Char) :=
  match name with
  | [] => none
  | initial :: _ =>
    match (singles initial).lookup (String.ofList name) with
    | some code => some [Char.ofNat code]
    | none =>
      (pairs.lookup (String.ofList name)).map fun (first, second) =>
        [Char.ofNat first, Char.ofNat second]

/-- The longest beginning of `word` that is a name without a semicolon, and the rest of it. -/
def unfinished? (word : List Char) : Option (List Char × List Char) :=
  let longest := unfinished.foldl (fun longest name =>
    if name.toList.isPrefixOf word && longest < name.length then name.length else longest) 0
  if longest = 0 then none else some (word.take longest, word.drop longest)

structure Replacement where
  text : List Char
  /-- The semicolon after the word belongs to the reference. -/
  takesSemicolon : Bool
deriving DecidableEq, Repr

/-- A character that keeps an unfinished name in an attribute from being a reference: the author
may have meant a parameter of an address. -/
def continuesParameter (char : Char) : Bool := char == '=' || char.isAlphanum

/-- Replaces an ampersand and the longest word of letters and digits after it; `next` is the
character that follows the word. -/
def replace (inValue : Bool) (word : List Char) (next : Option Char) : Replacement :=
  let whole := if next = some ';' then named? word else none
  match whole with
  | some characters => ⟨characters, true⟩
  | none =>
    match unfinished? word with
    | none => ⟨'&' :: word, false⟩
    | some (name, rest) =>
      if inValue && (rest.head?.or next).any continuesParameter then ⟨'&' :: word, false⟩
      else
        match named? name with
        | none => ⟨'&' :: word, false⟩
        | some characters => ⟨characters ++ rest, false⟩

example : replace false "notit".toList (some ';') = ⟨"¬it".toList, false⟩ := by decide +kernel

example : replace false "notin".toList (some ';') = ⟨"∉".toList, true⟩ := by decide +kernel

example : replace true "copy".toList (some '=') = ⟨"&copy".toList, false⟩ := by decide +kernel

/-! ## Numbers -/

/-- The characters that the numbers from 0x80 on had in the character set of Western Europe; zero
where they had none. -/
def westernEuropean : List Nat := [
  0x20AC, 0, 0x201A, 0x192, 0x201E, 0x2026, 0x2020, 0x2021, 0x2C6, 0x2030, 0x160, 0x2039, 0x152,
  0, 0x17D, 0, 0, 0x2018, 0x2019, 0x201C, 0x201D, 0x2022, 0x2013, 0x2014, 0x2DC, 0x2122, 0x161,
  0x203A, 0x153, 0, 0x17E, 0x178
]

def ofNumber (number : Nat) : Char :=
  if number = 0 ∨ ¬ number.isValidChar then '\uFFFD'
  else
    match if number < 0x80 then none else westernEuropean[number - 0x80]? with
    | none => Char.ofNat number
    | some 0 => Char.ofNat number
    | some code => Char.ofNat code

example : ofNumber 0x80 = '€' := by decide +kernel

example : ofNumber 0x81 = '\x81' := by decide +kernel

example : ofNumber 0x110000 = '\uFFFD' := by decide +kernel

end ChatMarkup.Document.Reference
