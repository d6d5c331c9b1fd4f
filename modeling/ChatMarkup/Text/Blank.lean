/-!
Blank characters and trimming. A character is blank when Unicode counts it as white space, so a
non-breaking space is blank and a zero-width space is not. Trimming takes the test as an argument,
because the edges of a finished message lose fewer characters than the edges of a paragraph.
-/

namespace ChatMarkup.Text

/-- The Unicode property White_Space. -/
def isBlank (char : Char) : Bool :=
  let code := char.toNat
  (9 ≤ code && code ≤ 13) || code == 0x20 || code == 0x85 || code == 0xA0 || code == 0x1680 ||
    (0x2000 ≤ code && code ≤ 0x200A) || code == 0x2028 || code == 0x2029 || code == 0x202F ||
    code == 0x205F || code == 0x3000

example : isBlank '\u00A0' = true := by decide

example : isBlank '\u200B' = false := by decide

/-! ## Trimming -/

def trimEndWhere (drop : Char → Bool) : List Char → List Char
  | [] => []
  | char :: rest =>
    match trimEndWhere drop rest with
    | [] => if drop char then [] else [char]
    | kept => char :: kept

def trimWhere (drop : Char → Bool) (text : List Char) : List Char :=
  trimEndWhere drop (text.dropWhile drop)

def trimStart (text : List Char) : List Char := text.dropWhile isBlank

def trimEnd (text : List Char) : List Char := trimEndWhere isBlank text

def trim (text : List Char) : List Char := trimWhere isBlank text

example : trim " \u00A0a b\n".toList = "a b".toList := by decide +kernel

end ChatMarkup.Text
