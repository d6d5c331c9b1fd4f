import ChatMarkup.Text.Lines
import ChatMarkup.Text.Reference.Names

/-!
Decoding character references in a text. A reference is an ampersand, a body of one to ten bytes
and a semicolon; the body is a number after `#`, or a name of the table. Everything else, a bare
ampersand included, is left as written.
-/

namespace ChatMarkup.Text

namespace Reference

/-! ## Numbers -/

def digit? (base : Nat) (char : Char) : Option Nat :=
  let code := char.toNat
  let value :=
    if 0x30 ≤ code ∧ code ≤ 0x39 then some (code - 0x30)
    else if 0x41 ≤ code ∧ code ≤ 0x46 then some (code - 0x41 + 10)
    else if 0x61 ≤ code ∧ code ≤ 0x66 then some (code - 0x61 + 10)
    else none
  value.filter (· < base)

def digitsFrom? (base value : Nat) : List Char → Option Nat
  | [] => some value
  | char :: rest =>
    match digit? base char with
    | none => none
    | some digit => digitsFrom? base (value * base + digit) rest

/-- One or more digits, after one optional plus sign. -/
def number? (base : Nat) (numeral : List Char) : Option Nat :=
  match numeral with
  | '+' :: digit :: rest => digitsFrom? base 0 (digit :: rest)
  | '+' :: [] => none
  | [] => none
  | digits => digitsFrom? base 0 digits

example : number? 16 "1fA".toList = some 0x1FA := by decide +kernel

example : number? 10 "+7".toList = some 7 := by decide +kernel

example : number? 10 "+".toList = none := by decide +kernel

def replacement : Char := '\uFFFD'

/-- The character with a code point, or the replacement character where there is none or the code
point is zero. -/
def ofCodePoint (code : Nat) : Char :=
  if code = 0 ∨ ¬ code.isValidChar then replacement else Char.ofNat code

example : ofCodePoint 0xD800 = '\uFFFD' := by decide +kernel

/-! ## Bodies -/

def body? : List Char → Option Char
  | '#' :: 'x' :: numeral => (number? 16 numeral).map ofCodePoint
  | '#' :: 'X' :: numeral => (number? 16 numeral).map ofCodePoint
  | '#' :: numeral => (number? 10 numeral).map ofCodePoint
  | name => named? (String.ofList name)

/-- The longest body that is looked at, in bytes of UTF-8. -/
def maxBodySize : Nat := 10

def byteSize (text : List Char) : Nat := text.foldr (fun char size => char.utf8Size + size) 0

def sizedBody? (body : List Char) : Option Char :=
  if 0 < byteSize body ∧ byteSize body ≤ maxBodySize then body? body else none

/-- What becomes of a stretch of text that begins with an ampersand and has no other: `after` is
the stretch without the ampersand. Its first semicolon is the only one that can end a reference. -/
def decodeStretch (after : List Char) : List Char :=
  let (body, semicolon) := after.span (· != ';')
  match semicolon, sizedBody? body with
  | _ :: rest, some char => char :: rest
  | _, _ => '&' :: after

end Reference

/-- Replaces every reference by its character. A reference holds no second ampersand, so the
stretches between ampersands are decoded each on its own. -/
def decodeReferences (text : List Char) : List Char :=
  match splitAtChar '&' text with
  | [] => []
  | plain :: stretches => plain ++ stretches.flatMap Reference.decodeStretch

example : decodeReferences "Tom &amp;amp; &#x4A;erry &#0;&bogus; & more".toList =
    "Tom &amp; Jerry \uFFFD&bogus; & more".toList := by decide +kernel

end ChatMarkup.Text
