import ChatMarkup.Text.Blank

/-!
Splitting text at a character, and the three passes over line breaks: `trimLineEnds`,
`capBlankLines` and `collapseBreaks`. `tidy` is the pass over a finished message.
-/

namespace ChatMarkup.Text

/-! ## Splitting -/

/-- The pieces between the separators, so one more piece than there are separators. -/
def splitAtChar (separator : Char) : List Char → List (List Char)
  | [] => [[]]
  | char :: rest =>
    if char = separator then [] :: splitAtChar separator rest
    else
      match splitAtChar separator rest with
      | [] => [[char]]
      | piece :: pieces => (char :: piece) :: pieces

def joinWithChar (separator : Char) : List (List Char) → List Char
  | [] => []
  | [piece] => piece
  | piece :: pieces => piece ++ separator :: joinWithChar separator pieces

def lines (text : List Char) : List (List Char) := splitAtChar '\n' text

def unlines (pieces : List (List Char)) : List Char := joinWithChar '\n' pieces

example : lines "a\n\nb".toList = ["a".toList, [], "b".toList] := by decide +kernel

theorem splitAtChar_ne_nil (separator : Char) (text : List Char) :
    splitAtChar separator text ≠ [] := by
  induction text with
  | nil => simp [splitAtChar]
  | cons char rest induction =>
      rw [splitAtChar]
      split
      · simp
      · split <;> simp

theorem joinWithChar_cons (separator : Char) (piece : List Char) {pieces : List (List Char)}
    (nonempty : pieces ≠ []) :
    joinWithChar separator (piece :: pieces) =
      piece ++ separator :: joinWithChar separator pieces := by
  cases pieces with
  | nil => exact absurd rfl nonempty
  | cons => rfl

theorem joinWithChar_splitAtChar (separator : Char) (text : List Char) :
    joinWithChar separator (splitAtChar separator text) = text := by
  induction text with
  | nil => rfl
  | cons char rest induction =>
      rw [splitAtChar]
      split
      · rename_i equal
        rw [joinWithChar_cons separator [] (splitAtChar_ne_nil separator rest), induction, equal]
        rfl
      · split
        · rename_i empty
          exact absurd empty (splitAtChar_ne_nil separator rest)
        · rename_i piece pieces split
          rw [split] at induction
          cases pieces with
          | nil => simp [joinWithChar] at induction ⊢; exact induction
          | cons next others => simp [joinWithChar] at induction ⊢; exact induction

theorem joinWithChar_cons_eq_flatMap (separator : Char) (front : List Char)
    (pieces : List (List Char)) :
    joinWithChar separator (front :: pieces) = front ++ pieces.flatMap (separator :: ·) := by
  induction pieces generalizing front with
  | nil => simp [joinWithChar]
  | cons piece pieces induction =>
      rw [joinWithChar_cons separator front (List.cons_ne_nil _ _), induction,
        List.flatMap_cons, List.cons_append]

theorem joinWithChar_append (separator : Char) {left right : List (List Char)}
    (leftNonempty : left ≠ []) (rightNonempty : right ≠ []) :
    joinWithChar separator (left ++ right) =
      joinWithChar separator left ++ separator :: joinWithChar separator right := by
  induction left with
  | nil => exact absurd rfl leftNonempty
  | cons piece rest induction =>
      cases rest with
      | nil => exact joinWithChar_cons separator piece rightNonempty
      | cons next others =>
          rw [List.cons_append, joinWithChar_cons separator piece (by simp),
            induction (List.cons_ne_nil next others),
            joinWithChar_cons separator piece (List.cons_ne_nil next others), List.append_assoc]
          rfl

theorem joinWithChar_eq_intercalate (separator : Char) (pieces : List (List Char)) :
    joinWithChar separator pieces = [separator].intercalate pieces := by
  induction pieces with
  | nil => rfl
  | cons piece rest induction =>
      cases rest with
      | nil => rw [List.intercalate_singleton]; rfl
      | cons next others =>
          rw [joinWithChar_cons separator piece (List.cons_ne_nil next others), induction,
            List.intercalate_cons_cons, List.append_assoc]
          rfl

theorem splitAtChar_append_of_free {separator : Char} {text rest piece : List Char}
    {pieces : List (List Char)} (free : separator ∉ text)
    (split : splitAtChar separator rest = piece :: pieces) :
    splitAtChar separator (text ++ rest) = (text ++ piece) :: pieces := by
  induction text with
  | nil => exact split
  | cons char text induction =>
      rw [List.mem_cons, not_or] at free
      rw [List.cons_append, splitAtChar, if_neg (Ne.symm free.1), induction free.2]
      rfl

theorem splitAtChar_of_free {separator : Char} {text : List Char} (free : separator ∉ text) :
    splitAtChar separator text = [text] := by
  have whole := splitAtChar_append_of_free free (rfl : splitAtChar separator [] = [[]])
  rwa [List.append_nil] at whole

theorem splitAtChar_append_separator (separator : Char) (left right : List Char) :
    splitAtChar separator (left ++ separator :: right) =
      splitAtChar separator left ++ splitAtChar separator right := by
  induction left with
  | nil => exact if_pos rfl
  | cons char left induction =>
      rw [List.cons_append, splitAtChar, splitAtChar, induction]
      split
      · rfl
      · rcases List.exists_cons_of_ne_nil (splitAtChar_ne_nil separator left) with
          ⟨piece, pieces, split⟩
        rw [split]
        rfl

/-- Pieces that have no separator in them can be joined and split again. -/
theorem splitAtChar_joinWithChar {separator : Char} {pieces : List (List Char)}
    (nonempty : pieces ≠ []) (free : ∀ piece ∈ pieces, separator ∉ piece) :
    splitAtChar separator (joinWithChar separator pieces) = pieces := by
  induction pieces with
  | nil => exact absurd rfl nonempty
  | cons piece rest induction =>
      rw [List.forall_mem_cons] at free
      cases rest with
      | nil => exact splitAtChar_of_free free.1
      | cons next others =>
          rw [joinWithChar_cons separator piece (List.cons_ne_nil next others),
            splitAtChar_append_separator, splitAtChar_of_free free.1,
            induction (List.cons_ne_nil next others) free.2, List.singleton_append]

/-- Pieces that end with a separator each, and what stands behind the last of them. -/
theorem splitAtChar_flatMap_append {separator : Char} {pieces : List (List Char)}
    {last : List Char} (free : ∀ piece ∈ pieces, separator ∉ piece) (lastFree : separator ∉ last) :
    splitAtChar separator (pieces.flatMap (· ++ [separator]) ++ last) = pieces ++ [last] := by
  induction pieces with
  | nil => exact splitAtChar_of_free lastFree
  | cons piece rest induction =>
      rw [List.forall_mem_cons] at free
      rw [List.flatMap_cons, List.append_assoc, List.append_assoc, List.singleton_append,
        splitAtChar_append_separator, splitAtChar_of_free free.1, induction free.2]
      rfl

theorem length_splitAtChar (separator : Char) (text : List Char) :
    (splitAtChar separator text).length = text.count separator + 1 := by
  induction text with
  | nil => rfl
  | cons char rest induction =>
      rw [splitAtChar]
      split
      · rename_i equal
        rw [equal, List.count_cons_self, List.length_cons, induction]
      · rename_i different
        rcases List.exists_cons_of_ne_nil (splitAtChar_ne_nil separator rest) with
          ⟨piece, pieces, split⟩
        rw [split] at induction ⊢
        rw [List.count_cons_of_ne different, ← induction]
        rfl

theorem notMem_of_mem_splitAtChar {separator : Char} {text piece : List Char}
    (member : piece ∈ splitAtChar separator text) : separator ∉ piece := by
  induction text generalizing piece with
  | nil =>
      rw [List.mem_singleton.mp member]
      exact List.not_mem_nil
  | cons char rest induction =>
      rw [splitAtChar] at member
      split at member
      · rcases List.mem_cons.mp member with rfl | inRest
        · exact List.not_mem_nil
        · exact induction inRest
      · rename_i different
        rcases List.exists_cons_of_ne_nil (splitAtChar_ne_nil separator rest) with
          ⟨first, pieces, split⟩
        rw [split] at member induction
        rcases List.mem_cons.mp member with rfl | later
        · rw [List.mem_cons, not_or]
          exact ⟨Ne.symm different, induction List.mem_cons_self⟩
        · exact induction (List.mem_cons_of_mem first later)

/-! ## Line breaks -/

def isHorizontal (char : Char) : Bool := char == ' ' || char == '\t' || char == '\r'

def trimLineEnds (text : List Char) : List Char :=
  unlines ((lines text).map (trimEndWhere isHorizontal))

example : trimLineEnds "a \t\nb  \n c".toList = "a\nb\n c".toList := by decide +kernel

/-- `text` where `seen` line breaks stand right before it, with no third break in a row. -/
def capBlankLinesAfter (seen : Nat) : List Char → List Char
  | [] => []
  | char :: rest =>
    if char = '\n' then
      if seen < 2 then '\n' :: capBlankLinesAfter (seen + 1) rest
      else capBlankLinesAfter seen rest
    else char :: capBlankLinesAfter 0 rest

def capBlankLines (text : List Char) : List Char := capBlankLinesAfter 0 text

example : capBlankLines "a\n\n\n\nb\n\nc".toList = "a\n\nb\n\nc".toList := by decide +kernel

def breakAhead : List Char → Bool
  | [] => false
  | char :: rest => char == '\n' || (isBlank char && breakAhead rest)

/-- Drops every blank character that has a line break ahead of it in the same run of blanks, so a
run keeps its last break and the indentation after that break. -/
def collapseBreaks : List Char → List Char
  | [] => []
  | char :: rest =>
    if isBlank char && breakAhead rest then collapseBreaks rest
    else char :: collapseBreaks rest

example : collapseBreaks "a \t\n\u00A0\n  b".toList = "a\n  b".toList := by decide +kernel

/-- The text inside a paragraph: single breaks between lines, and no run of blank lines. -/
def collapseInner (text : List Char) : List Char := capBlankLines (collapseBreaks text)

/-! ## A finished message -/

def isEdge (char : Char) : Bool := char == '\n' || isHorizontal char

/-- No trailing white space on a line, no two blank lines in a row, and none at the edges. Other
white space, such as a leading non-breaking space, is kept. -/
def tidy (text : List Char) : List Char :=
  trimWhere isEdge (capBlankLines (trimLineEnds text))

example : tidy "x\t\n\n\n\t\ny\r\n".toList = "x\n\ny".toList := by decide +kernel

end ChatMarkup.Text
