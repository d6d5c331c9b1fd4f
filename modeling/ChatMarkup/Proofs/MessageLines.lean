import Mathlib.Data.List.Destutter
import Mathlib.Data.List.DropRight
import ChatMarkup.Proofs.ParagraphSequences

/-!
A message line by line. Tidying a text, which goes over its characters three times, comes down to a
few operations on the list of its lines.
-/

namespace ChatMarkup.Text

/-! ## Lines of a message -/

def withoutEmptyEdges (pieces : List (List Char)) : List (List Char) :=
  (pieces.dropWhile List.isEmpty).rdropWhile List.isEmpty

/-- Of empty lines that follow each other only one is left. -/
def withSingleGaps (pieces : List (List Char)) : List (List Char) :=
  pieces.destutter fun left right => left ≠ [] ∨ right ≠ []

def messageLines (text : List Char) : List (List Char) :=
  (withSingleGaps (withoutEmptyEdges ((lines text).map (trimEndWhere isHorizontal)))).modifyHead
    (List.dropWhile isHorizontal)

example : messageLines "\n\r\n  a \n\n\t\n b\n".toList = ["a".toList, [], " b".toList] := by
  decide +kernel

structure IsCleanLine (line : List Char) : Prop where
  noBreak : '\n' ∉ line
  ends : line.getLast?.any isHorizontal = false

theorem isCleanLine_of_mem_trimmed {text line : List Char}
    (member : line ∈ (lines text).map (trimEndWhere isHorizontal)) : IsCleanLine line := by
  rcases List.mem_map.mp member with ⟨written, inText, rfl⟩
  refine ⟨?_, getLast?_trimEndWhere written⟩
  intro isBreak
  exact notMem_of_mem_splitAtChar inText ((trimEndWhere_sublist isHorizontal written).mem isBreak)

/-! ## Empty lines at the edges -/

def tidied (pieces : List (List Char)) : List Char :=
  trimWhere isEdge (capBlankLines (unlines pieces))

theorem tidied_empty_cons (pieces : List (List Char)) : tidied ([] :: pieces) = tidied pieces := by
  cases pieces with
  | nil => rfl
  | cons piece rest => exact trimWhere_capBlankLines_breaks 1 (unlines (piece :: rest))

theorem tidied_dropWhile (pieces : List (List Char)) :
    tidied (pieces.dropWhile List.isEmpty) = tidied pieces := by
  induction pieces with
  | nil => rfl
  | cons piece rest induction =>
      cases piece with
      | nil => rw [List.dropWhile_cons_of_pos rfl, induction, tidied_empty_cons]
      | cons char more => rw [List.dropWhile_cons_of_neg (by simp)]

theorem tidied_concat_empty (pieces : List (List Char)) :
    tidied (pieces ++ [[]]) = tidied pieces := by
  by_cases alone : pieces = []
  · subst alone
    rfl
  · rw [tidied, tidied, unlines, joinWithChar_append '\n' alone (List.cons_ne_nil [] [])]
    rcases capBlankLinesAfter_append 0 (joinWithChar '\n' pieces) ['\n'] with ⟨before, whole⟩
    have edges : ∀ char ∈ capBlankLinesAfter before ['\n'], isEdge char = true := by
      intro char member
      rw [List.mem_singleton.mp ((capBlankLinesAfter_sublist before ['\n']).mem member)]
      decide
    change trimWhere isEdge (capBlankLinesAfter 0 (joinWithChar '\n' pieces ++ ['\n'])) = _
    rw [whole, trimWhere_append_dropped _ edges]
    rfl

theorem tidied_rdropWhile (pieces : List (List Char)) :
    tidied (pieces.rdropWhile List.isEmpty) = tidied pieces := by
  induction pieces using List.reverseRecOn with
  | nil => rfl
  | append_singleton pieces last induction =>
      cases last with
      | nil => rw [List.rdropWhile_concat_pos _ _ _ rfl, induction, tidied_concat_empty]
      | cons char more => rw [List.rdropWhile_concat_neg _ _ _ (by simp)]

/-! ## Empty lines in between -/

theorem capBlankLinesAfter_line_append (seen : Nat) {line : List Char} (nonempty : line ≠ [])
    (noBreak : '\n' ∉ line) (rest : List Char) :
    capBlankLinesAfter seen (line ++ rest) = line ++ capBlankLines rest := by
  induction line generalizing seen with
  | nil => exact absurd rfl nonempty
  | cons char line induction =>
      rw [List.mem_cons, not_or] at noBreak
      rw [List.cons_append, capBlankLinesAfter, if_neg (Ne.symm noBreak.1)]
      cases line with
      | nil => rfl
      | cons next more =>
          rw [induction 0 (List.cons_ne_nil _ _) noBreak.2]
          rfl

theorem withSingleGaps_cons_cons (first next : List Char) (rest : List (List Char)) :
    withSingleGaps (first :: next :: rest) =
      if first = [] ∧ next = [] then withSingleGaps (next :: rest)
      else first :: withSingleGaps (next :: rest) := by
  rw [withSingleGaps, List.destutter_cons_cons]
  by_cases empty : first = [] ∧ next = []
  · rw [if_pos empty, if_neg (by simp [empty]), empty.1, empty.2]
    rfl
  · rw [if_neg empty, if_pos (by simpa [or_iff_not_imp_left] using empty)]
    rfl

/-- The first line stays where it is. -/
theorem withSingleGaps_cons (first : List Char) (rest : List (List Char)) :
    withSingleGaps (first :: rest) = first :: (withSingleGaps (first :: rest)).tail := by
  induction rest generalizing first with
  | nil => rfl
  | cons next rest induction =>
      rw [withSingleGaps_cons_cons]
      split
      · rename_i empty
        rw [empty.1, ← empty.2]
        exact induction next
      · rfl

theorem getLast?_withSingleGaps (pieces : List (List Char)) :
    (withSingleGaps pieces).getLast? = pieces.getLast? := by
  cases pieces with
  | nil => rfl
  | cons first rest =>
      induction rest generalizing first with
      | nil => rfl
      | cons next rest induction =>
          have later := induction next
          rw [withSingleGaps_cons_cons]
          split
          · exact later
          · rw [withSingleGaps_cons] at later ⊢
            rw [List.getLast?_cons_cons, List.getLast?_cons_cons, later]

theorem filter_withSingleGaps (pieces : List (List Char)) :
    (withSingleGaps pieces).filter (· ≠ []) = pieces.filter (· ≠ []) := by
  cases pieces with
  | nil => rfl
  | cons first rest =>
      induction rest generalizing first with
      | nil => rfl
      | cons next rest induction =>
          rw [withSingleGaps_cons_cons]
          split
          · rename_i empty
            rw [induction, empty.1]
            exact (List.filter_cons_of_neg (by simp)).symm
          · rw [List.filter_cons, List.filter_cons, induction]

/-- Behind an empty line the break in front of the next line is there already. -/
theorem capBlankLinesAfter_two_lines {pieces : List (List Char)} (more : pieces ≠ []) :
    '\n' :: capBlankLinesAfter 2 (pieces.flatMap ('\n' :: ·)) =
      capBlankLinesAfter 1 (pieces.flatMap ('\n' :: ·)) := by
  rcases List.exists_cons_of_ne_nil more with ⟨piece, rest, rfl⟩
  simp [capBlankLinesAfter]

/-- How many breaks have been seen in front of the break that ends a line. -/
def breaksBefore (line : List Char) : Nat := if line = [] then 1 else 0

theorem capBlankLinesAfter_lines {previous : List Char} {pieces : List (List Char)}
    (clean : ∀ piece ∈ pieces, '\n' ∉ piece) (ends : (previous :: pieces).getLast? ≠ some []) :
    capBlankLinesAfter (breaksBefore previous) (pieces.flatMap ('\n' :: ·)) =
      (withSingleGaps (previous :: pieces)).tail.flatMap ('\n' :: ·) := by
  induction pieces generalizing previous with
  | nil => rfl
  | cons piece pieces induction =>
      rw [List.forall_mem_cons] at clean
      rw [List.getLast?_cons_cons] at ends
      have later := induction clean.2 ends
      have fits : breaksBefore previous < 2 := by
        rw [breaksBefore]
        split <;> omega
      rw [List.flatMap_cons, List.cons_append, capBlankLinesAfter, if_pos rfl, if_pos fits,
        withSingleGaps_cons_cons]
      by_cases pieceEmpty : piece = []
      · subst pieceEmpty
        have more : pieces ≠ [] := by
          rintro rfl
          exact ends rfl
        change capBlankLinesAfter 1 _ = _ at later
        by_cases previousEmpty : previous = []
        · subst previousEmpty
          rw [if_pos ⟨rfl, rfl⟩, ← later]
          exact capBlankLinesAfter_two_lines more
        · rw [if_neg (by simp [previousEmpty]), List.tail_cons, withSingleGaps_cons,
            List.flatMap_cons, ← later, breaksBefore, if_neg previousEmpty]
          rfl
      · rw [breaksBefore, if_neg pieceEmpty] at later
        rw [if_neg (by simp [pieceEmpty]), List.tail_cons, withSingleGaps_cons, List.flatMap_cons,
          ← later, capBlankLinesAfter_line_append _ pieceEmpty clean.1]
        rfl

/-! ## The edges -/

theorem dropWhile_isEdge {text : List Char} (noBreak : '\n' ∉ text) :
    text.dropWhile isEdge = text.dropWhile isHorizontal := by
  induction text with
  | nil => rfl
  | cons char rest induction =>
      rw [List.mem_cons, not_or] at noBreak
      have same : isEdge char = isHorizontal char := by simp [isEdge, Ne.symm noBreak.1]
      rw [List.dropWhile_cons, List.dropWhile_cons, same, induction noBreak.2]

namespace IsCleanLine

variable {line : List Char} (clean : IsCleanLine line)
include clean

theorem not_isEdge : line.getLast?.any isEdge = false := by
  have ends := clean.ends
  cases last : line.getLast? with
  | none => rfl
  | some char =>
      have noBreak : char ≠ '\n' := by
        rintro rfl
        exact clean.noBreak (List.mem_of_getLast? last)
      rw [last] at ends
      simpa [isEdge, noBreak] using ends

theorem dropWhile_ne_nil (nonempty : line ≠ []) : line.dropWhile isHorizontal ≠ [] := by
  rw [Ne, List.dropWhile_eq_nil_iff]
  intro horizontal
  have ends := clean.ends
  rw [List.getLast?_eq_some_getLast nonempty, Option.any_some,
    horizontal _ (List.getLast_mem nonempty)] at ends
  cases ends

end IsCleanLine

/-- Clean lines, neither the first nor the last of which is empty. -/
structure IsBlock (pieces : List (List Char)) : Prop where
  clean : ∀ line ∈ pieces, IsCleanLine line
  starts : pieces.head? ≠ some []
  ends : pieces.getLast? ≠ some []

theorem isBlock_withoutEmptyEdges {pieces : List (List Char)}
    (clean : ∀ line ∈ pieces, IsCleanLine line) : IsBlock (withoutEmptyEdges pieces) where
  clean := fun line member =>
    clean line (((List.rdropWhile_prefix _ _).sublist.trans (List.dropWhile_sublist _)).mem member)
  starts := by
    intro first
    rcases List.rdropWhile_prefix List.isEmpty (pieces.dropWhile List.isEmpty) with ⟨more, whole⟩
    have stopped := List.head?_dropWhile_not List.isEmpty pieces
    rw [← whole, ← withoutEmptyEdges, List.head?_append, first] at stopped
    cases stopped
  ends := by
    intro last
    have nonempty : withoutEmptyEdges pieces ≠ [] := by
      intro empty
      rw [empty] at last
      cases last
    have stopped := List.rdropWhile_last_not List.isEmpty _ nonempty
    rw [List.getLast?_eq_some_getLast nonempty, Option.some.injEq] at last
    exact stopped (List.isEmpty_iff.mpr last)

namespace IsBlock

variable {pieces : List (List Char)}

theorem withSingleGaps (isBlock : IsBlock pieces) : IsBlock (withSingleGaps pieces) where
  clean := fun line member => isBlock.clean line ((List.destutter_sublist _ _).mem member)
  starts := by
    cases pieces with
    | nil => exact isBlock.starts
    | cons first rest =>
        rw [withSingleGaps_cons]
        exact isBlock.starts
  ends := by
    rw [getLast?_withSingleGaps]
    exact isBlock.ends

theorem capBlankLines_unlines (isBlock : IsBlock pieces) :
    capBlankLines (unlines pieces) = unlines (Text.withSingleGaps pieces) := by
  cases pieces with
  | nil => rfl
  | cons first rest =>
      have clean := List.forall_mem_cons.mp fun line member => (isBlock.clean line member).noBreak
      have starts : first ≠ [] := fun empty => isBlock.starts (congrArg some empty)
      have later := capBlankLinesAfter_lines clean.2 isBlock.ends
      rw [breaksBefore, if_neg starts] at later
      rw [withSingleGaps_cons, unlines, unlines, joinWithChar_cons_eq_flatMap,
        joinWithChar_cons_eq_flatMap, ← later, capBlankLines,
        capBlankLinesAfter_line_append 0 starts clean.1]
      rfl

/-- What stands behind the first line does not end with white space. -/
theorem getLast?_later (isBlock : IsBlock pieces) :
    (pieces.tail.flatMap ('\n' :: ·)).getLast?.any isEdge = false := by
  rcases List.eq_nil_or_concat pieces.tail with empty | ⟨front, last, whole⟩
  · rw [empty]
    rfl
  · rw [List.concat_eq_append] at whole
    have inPieces : last ∈ pieces := by
      apply List.mem_of_mem_tail
      simp [whole]
    have nonempty : last ≠ [] := by
      rintro rfl
      apply isBlock.ends
      cases pieces with
      | nil => cases inPieces
      | cons first rest =>
          rw [List.tail_cons] at whole
          rw [whole, ← List.cons_append, List.getLast?_concat]
    rw [whole, List.flatMap_append, List.flatMap_singleton, List.append_cons,
      List.getLast?_append_of_ne_nil _ nonempty]
    exact (isBlock.clean last inPieces).not_isEdge

/-- The first line loses its indentation, and nothing else is lost. -/
theorem trimWhere_unlines (isBlock : IsBlock pieces) :
    trimWhere isEdge (unlines pieces) =
      unlines (pieces.modifyHead (List.dropWhile isHorizontal)) := by
  cases pieces with
  | nil => rfl
  | cons first rest =>
      have restEnds := isBlock.getLast?_later
      rw [List.tail_cons] at restEnds
      have clean := isBlock.clean first List.mem_cons_self
      rcases List.eq_nil_or_concat first with rfl | ⟨front, last, rfl⟩
      · exact absurd rfl isBlock.starts
      · rw [List.concat_eq_append] at clean ⊢
        have inked := clean.not_isEdge
        rw [List.getLast?_concat] at inked
        rw [List.modifyHead_cons, ← dropWhile_isEdge clean.noBreak, unlines, unlines,
          joinWithChar_cons_eq_flatMap, joinWithChar_cons_eq_flatMap,
          dropWhile_append_cons front inked, List.append_assoc, List.singleton_append,
          trimWhere_append_cons front inked, trimEndWhere_eq_self restEnds, List.append_assoc]
        rfl

/-- The lines are still there when the first one has lost its indentation. -/
theorem filter_lines_unlines (isBlock : IsBlock pieces) :
    (lines (unlines (pieces.modifyHead (List.dropWhile isHorizontal)))).filter (· ≠ []) =
      (pieces.filter (· ≠ [])).modifyHead (List.dropWhile isHorizontal) := by
  cases pieces with
  | nil => rfl
  | cons first rest =>
      have clean := List.forall_mem_cons.mp isBlock.clean
      have starts : first ≠ [] := fun empty => isBlock.starts (congrArg some empty)
      have indented := clean.1.dropWhile_ne_nil starts
      have free : ∀ line ∈ first.dropWhile isHorizontal :: rest, '\n' ∉ line := by
        rw [List.forall_mem_cons]
        exact ⟨fun isBreak => clean.1.noBreak ((List.dropWhile_sublist _).mem isBreak),
          fun line member => (clean.2 line member).noBreak⟩
      rw [List.modifyHead_cons, lines, unlines,
        splitAtChar_joinWithChar (List.cons_ne_nil _ _) free,
        List.filter_cons_of_pos (by simpa using indented),
        List.filter_cons_of_pos (by simpa using starts), List.modifyHead_cons]

end IsBlock

/-! ## Messages -/

theorem filter_dropWhile_isEmpty (pieces : List (List Char)) :
    (pieces.dropWhile List.isEmpty).filter (· ≠ []) = pieces.filter (· ≠ []) := by
  induction pieces with
  | nil => rfl
  | cons piece rest induction => cases piece <;> simp_all

theorem filter_withoutEmptyEdges (pieces : List (List Char)) :
    (withoutEmptyEdges pieces).filter (· ≠ []) = pieces.filter (· ≠ []) := by
  rw [withoutEmptyEdges, List.rdropWhile, List.filter_reverse, filter_dropWhile_isEmpty,
    List.filter_reverse, List.reverse_reverse, filter_dropWhile_isEmpty]

theorem isBlock_lines (text : List Char) :
    IsBlock (withoutEmptyEdges ((lines text).map (trimEndWhere isHorizontal))) :=
  isBlock_withoutEmptyEdges fun _ => isCleanLine_of_mem_trimmed

theorem tidy_eq_unlines (text : List Char) : tidy text = unlines (messageLines text) := by
  have isBlock := isBlock_lines text
  calc tidy text
    _ = tidied ((lines text).map (trimEndWhere isHorizontal)) := rfl
    _ = tidied (withoutEmptyEdges ((lines text).map (trimEndWhere isHorizontal))) := by
        rw [withoutEmptyEdges, tidied_rdropWhile, tidied_dropWhile]
    _ = unlines (messageLines text) := by
        rw [tidied, isBlock.capBlankLines_unlines, isBlock.withSingleGaps.trimWhere_unlines,
          messageLines]

def writtenLines (text : List Char) : List (List Char) :=
  ((lines text).map (trimEndWhere isHorizontal)).filter (· ≠ [])

/-- A tidied text is its lines put in order: without white space at their ends, without empty lines
at the edges, with one empty line where there were several, and without the indentation of the first
line. So the lines with something on them are all there, and those behind the first one as they were
indented. -/
theorem tidy_lines (text : List Char) :
    tidy text = unlines (messageLines text) ∧
      (lines (tidy text)).filter (· ≠ []) =
        (writtenLines text).modifyHead (List.dropWhile isHorizontal) := by
  refine ⟨tidy_eq_unlines text, ?_⟩
  rw [tidy_eq_unlines, messageLines, (isBlock_lines text).withSingleGaps.filter_lines_unlines,
    filter_withSingleGaps, filter_withoutEmptyEdges, writtenLines]

end ChatMarkup.Text
