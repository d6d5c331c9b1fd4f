import Mathlib.Data.List.Basic
import Mathlib.Logic.Function.Iterate
import ChatMarkup.Proofs.TrailingBlanks
import ChatMarkup.Rule

/-!
Quotations, line by line. Quoting keeps the number of lines and treats each line by itself, and a
line that is quoted again gets one more mark in front. So a quotation of any depth tells lines apart
by what they are without the white space around them, and by nothing else.
-/

namespace ChatMarkup

open Text

namespace Text

theorem lines_injective : Function.Injective lines :=
  Function.LeftInverse.injective (joinWithChar_splitAtChar '\n')

end Text

namespace Rule

/-! ## One line -/

def quotationMarks (depth : Nat) : List Char := (List.replicate depth '>').intersperse ' '

def behindMarks (depth : Nat) (trimmed : List Char) : List Char :=
  quotationMarks depth ++ if trimmed = [] then [] else ' ' :: trimmed

theorem behindMarks_one_nil : behindMarks 1 [] = ['>'] := rfl

theorem behindMarks_one {trimmed : List Char} (inked : trimmed ≠ []) :
    behindMarks 1 trimmed = '>' :: ' ' :: trimmed := by
  rw [behindMarks, if_neg inked]
  rfl

theorem behindMarks_succ (depth : Nat) (trimmed : List Char) :
    behindMarks (depth + 2) trimmed = '>' :: ' ' :: behindMarks (depth + 1) trimmed := by
  rw [behindMarks, behindMarks, quotationMarks, List.replicate_succ, List.replicate_succ,
    List.intersperse_cons_cons, ← List.replicate_succ]
  rfl

theorem exists_behindMarks_eq_cons (depth : Nat) (trimmed : List Char) :
    ∃ rest, behindMarks (depth + 1) trimmed = '>' :: rest := by
  cases depth with
  | zero => exact ⟨_, rfl⟩
  | succ depth => exact ⟨_, behindMarks_succ depth trimmed⟩

theorem behindMarks_ne_nil (depth : Nat) (trimmed : List Char) :
    behindMarks (depth + 1) trimmed ≠ [] := by
  rcases exists_behindMarks_eq_cons depth trimmed with ⟨rest, whole⟩
  rw [whole]
  exact List.cons_ne_nil _ _

theorem break_notMem_behindMarks_one {trimmed : List Char} (noBreak : '\n' ∉ trimmed) :
    '\n' ∉ behindMarks 1 trimmed := by
  by_cases blank : trimmed = []
  · rw [blank]
    decide
  · rw [behindMarks_one blank]
    simp [noBreak]

/-- A mark in front and ink at the end: there is nothing to trim. -/
theorem trim_behindMarks (depth : Nat) (line : List Char) :
    trim (behindMarks (depth + 1) (trim line)) = behindMarks (depth + 1) (trim line) := by
  apply trim_eq_self
  · rcases exists_behindMarks_eq_cons depth (trim line) with ⟨rest, whole⟩
    rw [whole]
    exact (by decide : isBlank '>' = false)
  · induction depth with
    | zero =>
        by_cases blank : trim line = []
        · rw [blank]
          decide
        · rw [behindMarks_one blank, List.getLast?_cons_cons, List.getLast?_cons_of_ne_nil blank]
          exact getLast?_trimEndWhere _
    | succ depth induction =>
        rw [behindMarks_succ, List.getLast?_cons_cons,
          List.getLast?_cons_of_ne_nil (behindMarks_ne_nil depth _)]
        exact induction

/-- Quoting a quoted line puts one more mark in front of it. -/
theorem behindMarks_behindMarks (depth : Nat) (line : List Char) :
    behindMarks 1 (trim (behindMarks (depth + 1) (trim line))) =
      behindMarks (depth + 2) (trim line) := by
  rw [trim_behindMarks, behindMarks_one (behindMarks_ne_nil depth _), behindMarks_succ]

theorem behindMarks_injective (depth : Nat) : Function.Injective (behindMarks depth) := by
  intro left right same
  have same := List.append_cancel_left same
  split at same <;> split at same
  · rename_i leftBlank rightBlank
    rw [leftBlank, rightBlank]
  · cases same
  · cases same
  · exact (List.cons.inj same).2

theorem quotedLine_eq (line : List Char) : quotedLine line = behindMarks 1 (trim line) := by
  rw [quotedLine]
  split
  · rename_i blank
    rw [blank, behindMarks_one_nil]
  · rename_i inked
    rw [behindMarks_one inked]

/-! ## All lines -/

variable {text : List Char}

theorem apply_quote (nonempty : text ≠ []) :
    apply text .quote = unlines ((lines text).map quotedLine) :=
  if_neg (mt List.isEmpty_iff.mp nonempty)

theorem lines_apply_quote (nonempty : text ≠ []) :
    lines (apply text .quote) = (lines text).map fun line => behindMarks 1 (trim line) := by
  have noBreak : ∀ piece ∈ (lines text).map quotedLine, '\n' ∉ piece := by
    rw [List.forall_mem_map]
    intro line member
    rw [quotedLine_eq]
    exact break_notMem_behindMarks_one
      fun isBreak => notMem_of_mem_splitAtChar member ((trim_sublist line).mem isBreak)
  have some : (lines text).map quotedLine ≠ [] :=
    mt List.map_eq_nil_iff.mp (splitAtChar_ne_nil '\n' text)
  rw [apply_quote nonempty, lines, unlines, splitAtChar_joinWithChar some noBreak]
  exact List.map_congr_left fun line _ => quotedLine_eq line

/-- No text quotes to nothing. -/
theorem apply_quote_ne_nil (nonempty : text ≠ []) : apply text .quote ≠ [] := by
  intro nothing
  have quoted := lines_apply_quote nonempty
  rcases List.exists_cons_of_ne_nil (splitAtChar_ne_nil '\n' text) with ⟨first, later, split⟩
  rw [nothing, lines, lines, split, List.map_cons] at quoted
  exact behindMarks_ne_nil 0 _ (List.cons.inj quoted).1.symm

theorem iterate_quote_ne_nil (nonempty : text ≠ []) (depth : Nat) :
    (apply · .quote)^[depth] text ≠ [] := by
  induction depth with
  | zero => exact nonempty
  | succ depth induction =>
      rw [Function.iterate_succ_apply']
      exact apply_quote_ne_nil induction

theorem lines_iterate_quote (nonempty : text ≠ []) (depth : Nat) :
    lines ((apply · .quote)^[depth + 1] text) =
      (lines text).map fun line => behindMarks (depth + 1) (trim line) := by
  induction depth with
  | zero => exact lines_apply_quote nonempty
  | succ depth induction =>
      rw [Function.iterate_succ_apply', lines_apply_quote (iterate_quote_ne_nil nonempty _),
        induction, List.map_map]
      exact List.map_congr_left fun line _ => behindMarks_behindMarks depth line

theorem apply_quote_append_break {first second : List Char} (firstNonempty : first ≠ [])
    (secondNonempty : second ≠ []) :
    apply (first ++ '\n' :: second) .quote =
      apply first .quote ++ '\n' :: apply second .quote := by
  have some (text : List Char) : (lines text).map quotedLine ≠ [] :=
    mt List.map_eq_nil_iff.mp (splitAtChar_ne_nil '\n' text)
  have split : lines (first ++ '\n' :: second) = lines first ++ lines second :=
    splitAtChar_append_separator '\n' first second
  have nonempty : first ++ '\n' :: second ≠ [] := by simp
  rw [apply_quote firstNonempty, apply_quote secondNonempty, apply_quote nonempty, split,
    List.map_append, unlines, unlines, unlines, joinWithChar_append '\n' (some _) (some _)]

theorem iterate_quote_eq_iff {left right : List Char} (leftNonempty : left ≠ [])
    (rightNonempty : right ≠ []) (depth : Nat) :
    (apply · .quote)^[depth + 1] left = (apply · .quote)^[depth + 1] right ↔
      (lines left).map trim = (lines right).map trim := by
  have byTrimmed (text : List Char) :
      ((lines text).map fun line => behindMarks (depth + 1) (trim line)) =
        ((lines text).map trim).map (behindMarks (depth + 1)) := by
    rw [List.map_map]
    rfl
  have injective := List.map_injective_iff.mpr (behindMarks_injective (depth + 1))
  rw [← lines_injective.eq_iff, lines_iterate_quote leftNonempty, lines_iterate_quote rightNonempty,
    byTrimmed, byTrimmed, injective.eq_iff]

end Rule

/-- Quoting a text any number of times puts as many marks in front of every line, and behind them
the line without its white space. It can be done to the two sides of a line break apart, and two
texts have the same quotation exactly if their lines are the same up to the white space around
them. -/
theorem quotation_by_line :
    (∀ (text : List Char) (depth : Nat), text ≠ [] → 0 < depth →
      lines ((Rule.apply · .quote)^[depth] text) =
        (lines text).map fun line => Rule.behindMarks depth (trim line)) ∧
      (∀ first second : List Char, first ≠ [] → second ≠ [] →
        Rule.apply (first ++ '\n' :: second) .quote =
          Rule.apply first .quote ++ '\n' :: Rule.apply second .quote) ∧
      ∀ (left right : List Char) (depth : Nat), left ≠ [] → right ≠ [] → 0 < depth →
        ((Rule.apply · .quote)^[depth] left = (Rule.apply · .quote)^[depth] right ↔
          (lines left).map trim = (lines right).map trim) := by
  refine ⟨?_, fun _ _ => Rule.apply_quote_append_break, ?_⟩
  · intro text depth nonempty positive
    cases depth with
    | zero => exact absurd positive (Nat.lt_irrefl 0)
    | succ depth => exact Rule.lines_iterate_quote nonempty depth
  · intro left right depth leftNonempty rightNonempty positive
    cases depth with
    | zero => exact absurd positive (Nat.lt_irrefl 0)
    | succ depth => exact Rule.iterate_quote_eq_iff leftNonempty rightNonempty depth

theorem quotation_by_line_nested :
    lines ((Rule.apply · .quote)^[2] "a \n\n > b".toList) =
        ["> > a".toList, "> >".toList, "> > > b".toList] ∧
      Rule.apply "a\n\n".toList .quote = "> a\n>\n>".toList ∧
      (Rule.apply · .quote)^[3] "\u00A0a\n".toList = (Rule.apply · .quote)^[3] "a\r\n ".toList := by
  rcases quotation_by_line with ⟨byLine, apart, same⟩
  refine ⟨?_, ?_, ?_⟩
  · exact (byLine "a \n\n > b".toList 2 (by decide) (by decide)).trans (by decide +kernel)
  · exact (apart "a".toList "\n".toList (by decide) (by decide)).trans (by decide +kernel)
  · exact (same "\u00A0a\n".toList "a\r\n ".toList 3 (by decide) (by decide) (by decide)).mpr
      (by decide +kernel)

end ChatMarkup
