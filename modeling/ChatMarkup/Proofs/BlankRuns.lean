import Mathlib.Data.List.DropRight
import Mathlib.Data.List.SplitBy
import ChatMarkup.Proofs.Patterns
import ChatMarkup.Proofs.TidyMessages

/-!
What becomes of the white space inside a paragraph. Every run of white space that has a line break
in it is cut to its last break and what follows that break, and nothing else changes. Two breaks
with white space between them are never left, so there is nothing to do for a second pass.
-/

namespace ChatMarkup.Text

theorem ne_break_of_not_blank {char : Char} (inked : isBlank char = false) : char ≠ '\n' := by
  rintro rfl
  exact absurd inked (by decide)

/-- A single break before the text makes no difference unless two more follow. -/
theorem capBlankLinesAfter_one {text : List Char} (fewer : ¬['\n', '\n'] <+: text) :
    capBlankLinesAfter 1 text = capBlankLines text := by
  match text with
  | [] => rfl
  | [char] => simp [capBlankLines, capBlankLinesAfter]
  | char :: next :: rest =>
      by_cases isBreak : char = '\n'
      · have different : next ≠ '\n' := by
          rintro rfl
          simp [isBreak] at fewer
        simp [capBlankLines, capBlankLinesAfter, isBreak, different]
      · simp [capBlankLines, capBlankLinesAfter, isBreak]

/-! ## The passes as searches -/

namespace Pattern

def upToBreak : Pattern Char := (many isBlank).followedBy fun _ => one (· == '\n')

def blankLineEnd : Pattern Char := (one isBlank).followedBy fun _ => upToBreak

def blankLines : Pattern (List Char) :=
  (one (· == '\n')).followedBy fun _ => (one (· == '\n')).followedBy fun _ =>
    (one (· == '\n')).followedBy fun _ => many (· == '\n')

/-- White space is given back until a break is reached. -/
theorem first?_upToBreak_cons (char : Char) (rest : List Char) :
    upToBreak.first? (char :: rest) =
      if isBlank char then
        (upToBreak.first? rest).or (if char = '\n' then some (char, rest) else none)
      else none := by
  rw [upToBreak, first?_followedBy, first?_followedBy, many, List.findSome?_append]
  cases blank : isBlank char with
  | true => simp [List.findSome?_map, Function.comp_def, Prod.map]
  | false => simp [ne_break_of_not_blank blank]

theorem breakAhead_of_first?_eq_none {text : List Char} (absent : upToBreak.first? text = none) :
    breakAhead text = false := by
  induction text with
  | nil => rfl
  | cons char rest induction =>
      rw [first?_upToBreak_cons] at absent
      rw [breakAhead]
      cases blank : isBlank char with
      | true =>
          rw [if_pos blank, Option.or_eq_none_iff] at absent
          have noBreak : char ≠ '\n' := by simpa using absent.2
          simp [induction absent.1, noBreak]
      | false => simp [ne_break_of_not_blank blank]

theorem collapseBreaks_of_first? {text after : List Char} {kept : Char}
    (found : upToBreak.first? text = some (kept, after)) :
    breakAhead text = true ∧ after.length < text.length ∧
      collapseBreaks text = '\n' :: collapseBreaks after := by
  induction text with
  | nil => cases found
  | cons char rest induction =>
      rw [first?_upToBreak_cons] at found
      split at found
      · rename_i blank
        rcases Option.or_eq_some_iff.mp found with later | ⟨absent, here⟩
        · rcases induction later with ⟨ahead, shorter, collapsed⟩
          simp [breakAhead, collapseBreaks, blank, ahead, collapsed]
          omega
        · split at here
          · rename_i isBreak
            cases here
            have last := breakAhead_of_first?_eq_none absent
            simp [breakAhead, collapseBreaks, isBreak, last]
          · cases here
      · cases found

theorem replaceAll_blankLineEnd (text : List Char) :
    blankLineEnd.replaceAll (fun _ => ['\n']) text = collapseBreaks text := by
  match text with
  | [] => rw [replaceAll, collapseBreaks]
  | char :: rest =>
      have start := first?_one_followedBy isBlank (fun _ => upToBreak) char rest
      rw [← blankLineEnd] at start
      rw [collapseBreaks]
      split
      · rename_i dropped
        rw [Bool.and_eq_true] at dropped
        rw [if_pos dropped.1] at start
        cases found : upToBreak.first? rest with
        | none =>
            rw [breakAhead_of_first?_eq_none found] at dropped
            cases dropped.2
        | some way =>
            rcases way with ⟨kept, after⟩
            rcases collapseBreaks_of_first? found with ⟨-, shorter, collapsed⟩
            rw [replaceAll_of_first? _ (start.trans found) (Nat.lt_succ_of_lt shorter),
              replaceAll_blankLineEnd after, collapsed]
            rfl
      · rename_i kept
        have absent : blankLineEnd.first? (char :: rest) = none := by
          cases found : blankLineEnd.first? (char :: rest) with
          | none => rfl
          | some way =>
              rw [start] at found
              split at found
              · rename_i blank
                rw [blank, (collapseBreaks_of_first? found).1] at kept
                exact absurd rfl kept
              · cases found
        rw [replaceAll_of_absent _ absent, replaceAll_blankLineEnd rest]
termination_by text.length

theorem first?_blankLines_breaks (rest : List Char) :
    blankLines.first? ('\n' :: '\n' :: '\n' :: rest) =
      some (rest.takeWhile (· == '\n'), rest.dropWhile (· == '\n')) := by
  simp [blankLines, first?_one_followedBy, first?_many]

theorem prefix_of_first?_blankLines {text : List Char} (found : blankLines.first? text ≠ none) :
    ['\n', '\n', '\n'] <+: text := by
  match text with
  | [] => exact absurd rfl found
  | [char] => simp [blankLines, first?_one_followedBy, first?_one_followedBy_nil] at found
  | [char, next] => simp [blankLines, first?_one_followedBy, first?_one_followedBy_nil] at found
  | char :: next :: third :: rest =>
      simp [blankLines, first?_one_followedBy] at found
      simp [found]

theorem replaceAll_blankLines (text : List Char) :
    blankLines.replaceAll (fun _ => ['\n', '\n']) text = capBlankLines text := by
  match text with
  | [] => rw [replaceAll, capBlankLines, capBlankLinesAfter]
  | char :: rest =>
      by_cases three : ['\n', '\n', '\n'] <+: char :: rest
      · rcases three with ⟨more, whole⟩
        have found := first?_blankLines_breaks more
        have capped : capBlankLines ('\n' :: '\n' :: '\n' :: more) =
            '\n' :: '\n' :: capBlankLines (more.dropWhile (· == '\n')) := by
          simp [capBlankLines, capBlankLinesAfter, capBlankLinesAfter_two]
        have shorter : (more.dropWhile (· == '\n')).length < (char :: rest).length := by
          have fewer := (List.dropWhile_sublist (· == '\n') (l := more)).length_le
          rw [← whole]
          simp only [List.length_append, List.length_cons]
          omega
        change '\n' :: '\n' :: '\n' :: more = char :: rest at whole
        rw [whole] at found capped
        rw [replaceAll_of_first? _ found shorter, replaceAll_blankLines (more.dropWhile _), capped]
        rfl
      · have absent : blankLines.first? (char :: rest) = none := by
          by_contra found
          exact three (prefix_of_first?_blankLines found)
        rw [replaceAll_of_absent _ absent, replaceAll_blankLines rest, capBlankLines,
          capBlankLines, capBlankLinesAfter]
        split
        · rename_i isBreak
          have fewer : ¬['\n', '\n'] <+: rest := fun two =>
            three (List.cons_prefix_cons.mpr ⟨isBreak.symm, two⟩)
          rw [if_pos Nat.zero_lt_two, capBlankLinesAfter_one fewer, isBreak, capBlankLines]
        · rfl
termination_by text.length
decreasing_by
  · exact shorter
  · exact Nat.lt_succ_self _

end Pattern

/-! ## Runs of white space -/

def areAlike (left right : Char) : Bool := isBlank left == isBlank right

def blankRuns (text : List Char) : List (List Char) := text.splitBy areAlike

/-- A run with a break in it is cut to its last break and what follows. -/
def collapseRun (run : List Char) : List Char :=
  if '\n' ∈ run then '\n' :: run.rtakeWhile (· != '\n') else run

example : (blankRuns "a \n\t\n b c".toList).map collapseRun =
    ["a".toList, "\n ".toList, "b".toList, " ".toList, "c".toList] := by
  decide +kernel

theorem collapseRun_of_free {run : List Char} (free : '\n' ∉ run) : collapseRun run = run :=
  if_neg free

theorem collapseRun_append_break (front : List Char) {tail : List Char} (free : '\n' ∉ tail) :
    collapseRun (front ++ '\n' :: tail) = '\n' :: tail := by
  have kept : ∀ char ∈ tail.reverse, (char != '\n') = true := by
    intro char member
    rw [bne_iff_ne]
    rintro rfl
    exact free (List.mem_reverse.mp member)
  rw [collapseRun, if_pos (by simp), List.rtakeWhile, List.reverse_append, List.reverse_cons,
    List.append_assoc, List.takeWhile_append_of_pos kept]
  simp

/-! ### Collapsing a run -/

theorem breakAhead_append_break {front : List Char} (blank : ∀ char ∈ front, isBlank char = true)
    (text : List Char) : breakAhead (front ++ '\n' :: text) = true := by
  induction front with
  | nil => rfl
  | cons char front induction =>
      rw [List.forall_mem_cons] at blank
      simp [breakAhead, blank.1, induction blank.2]

/-- White space in front of a break is left out. -/
theorem collapseBreaks_append_break {front : List Char}
    (blank : ∀ char ∈ front, isBlank char = true) (text : List Char) :
    collapseBreaks (front ++ '\n' :: text) = collapseBreaks ('\n' :: text) := by
  induction front with
  | nil => rfl
  | cons char front induction =>
      rw [List.forall_mem_cons] at blank
      rw [List.cons_append, collapseBreaks, blank.1, breakAhead_append_break blank.2,
        induction blank.2]
      rfl

theorem breakAhead_append_of_free {front rest : List Char} (free : '\n' ∉ front)
    (inked : rest.head?.any isBlank = false) : breakAhead (front ++ rest) = false := by
  induction front with
  | nil =>
      cases rest with
      | nil => rfl
      | cons char rest => simp_all [breakAhead, ne_break_of_not_blank]
  | cons char front induction =>
      rw [List.mem_cons, not_or] at free
      simp [breakAhead, Ne.symm free.1, induction free.2]

/-- What has no break ahead stays. -/
theorem collapseBreaks_append_of_free {front rest : List Char} (free : '\n' ∉ front)
    (inked : rest.head?.any isBlank = false) :
    collapseBreaks (front ++ rest) = front ++ collapseBreaks rest := by
  induction front with
  | nil => rfl
  | cons char front induction =>
      rw [List.mem_cons, not_or] at free
      rw [List.cons_append, collapseBreaks, breakAhead_append_of_free free.2 inked,
        induction free.2]
      simp

theorem collapseBreaks_blank_append {run rest : List Char}
    (blank : ∀ char ∈ run, isBlank char = true) (inked : rest.head?.any isBlank = false) :
    collapseBreaks (run ++ rest) = collapseRun run ++ collapseBreaks rest := by
  rcases @all_dropped_or_last_kept (· != '\n') run with
    noBreak | ⟨front, last, tail, rfl, isBreak, noBreak⟩
  · have free : '\n' ∉ run := fun member => absurd (noBreak _ member) (by decide)
    rw [collapseBreaks_append_of_free free inked, collapseRun_of_free free]
  · have free : '\n' ∉ tail := fun member => absurd (noBreak _ member) (by decide)
    rw [bne_eq_false_iff_eq] at isBreak
    subst isBreak
    rw [List.append_assoc, List.cons_append,
      collapseBreaks_append_break (List.forall_mem_append.mp blank).1,
      collapseRun_append_break front free, collapseBreaks, breakAhead_append_of_free free inked,
      collapseBreaks_append_of_free free inked]
    simp

theorem collapseBreaks_inked_append {run : List Char} (inked : ∀ char ∈ run, isBlank char = false)
    (rest : List Char) : collapseBreaks (run ++ rest) = run ++ collapseBreaks rest := by
  induction run with
  | nil => rfl
  | cons char run induction =>
      rw [List.forall_mem_cons] at inked
      rw [List.cons_append, collapseBreaks, inked.1, induction inked.2]
      rfl

/-! ### All runs of a text -/

/-- The characters of a run are of one kind. -/
theorem isBlank_eq_of_isChain {first : Char} {run : List Char}
    (alike : (first :: run).IsChain fun left right => areAlike left right = true) :
    ∀ char ∈ first :: run, isBlank char = isBlank first := by
  induction run generalizing first with
  | nil => simp
  | cons next run induction =>
      rw [List.isChain_cons_cons, areAlike, beq_iff_eq] at alike
      rw [List.forall_mem_cons, alike.1]
      exact ⟨rfl, induction alike.2⟩

theorem collapseBreaks_flatten {runs : List (List Char)} (nonempty : [] ∉ runs)
    (alike : ∀ run ∈ runs, run.IsChain fun left right => areAlike left right = true)
    (apart : runs.IsChain fun left right => ∃ leftNonempty rightNonempty,
      areAlike (left.getLast leftNonempty) (right.head rightNonempty) = false) :
    collapseBreaks runs.flatten = runs.flatMap collapseRun := by
  induction runs with
  | nil => rfl
  | cons run runs induction =>
      rw [List.mem_cons, not_or] at nonempty
      rw [List.forall_mem_cons] at alike
      rw [List.isChain_cons] at apart
      rcases List.exists_cons_of_ne_nil (Ne.symm nonempty.1) with ⟨first, more, rfl⟩
      have kind := isBlank_eq_of_isChain alike.1
      rw [List.flatten_cons, List.flatMap_cons, ← induction nonempty.2 alike.2 apart.2]
      cases blank : isBlank first with
      | true =>
          rw [blank] at kind
          refine collapseBreaks_blank_append kind ?_
          cases runs with
          | nil => rfl
          | cons next others =>
              rcases apart.1 next rfl with ⟨_, nextNonempty, different⟩
              rw [areAlike, kind _ (List.getLast_mem _)] at different
              rcases List.exists_cons_of_ne_nil nextNonempty with ⟨char, rest, rfl⟩
              simpa using different
      | false =>
          rw [blank] at kind
          have free : '\n' ∉ first :: more := fun member => absurd (kind _ member) (by decide)
          rw [collapseBreaks_inked_append kind, collapseRun_of_free free]

theorem collapseBreaks_eq_flatMap (text : List Char) :
    collapseBreaks text = (blankRuns text).flatMap collapseRun := by
  have runs := collapseBreaks_flatten (List.nil_notMem_splitBy areAlike text)
    (fun _ => List.isChain_of_mem_splitBy) (List.isChain_getLast_head_splitBy areAlike text)
  rwa [List.flatten_splitBy] at runs

/-! ## What is left -/

theorem breakAhead_collapseBreaks (text : List Char) :
    breakAhead (collapseBreaks text) = breakAhead text := by
  induction text with
  | nil => rfl
  | cons char rest induction =>
      rw [collapseBreaks]
      split
      · rename_i dropped
        rw [Bool.and_eq_true] at dropped
        simp [induction, breakAhead, dropped]
      · rw [breakAhead, breakAhead, induction]

/-- White space that is left has no break ahead. -/
theorem breakAhead_of_suffix_collapseBreaks {text rest : List Char} {char : Char}
    (left : char :: rest <:+ collapseBreaks text) (blank : isBlank char = true) :
    breakAhead rest = false := by
  induction text with
  | nil => simp [collapseBreaks] at left
  | cons first text induction =>
      rw [collapseBreaks] at left
      split at left
      · exact induction left
      · rename_i kept
        rcases List.suffix_cons_iff.mp left with whole | later
        · rcases List.cons.inj whole with ⟨rfl, rfl⟩
          simpa [blank, breakAhead_collapseBreaks] using kept
        · exact induction later

/-- Between two breaks that are left there is ink. -/
theorem exists_ink_of_infix_collapseBreaks {text gap : List Char}
    (left : '\n' :: (gap ++ ['\n']) <:+: collapseBreaks text) :
    ∃ char ∈ gap, isBlank char = false := by
  rcases left with ⟨before, after, whole⟩
  have behind : '\n' :: (gap ++ '\n' :: after) <:+ collapseBreaks text :=
    ⟨before, by simpa using whole⟩
  have last := breakAhead_of_suffix_collapseBreaks behind (by decide)
  by_contra noInk
  rw [breakAhead_append_break (by simpa using noInk)] at last
  cases last

theorem collapseBreaks_collapseBreaks (text : List Char) :
    collapseBreaks (collapseBreaks text) = collapseBreaks text := by
  induction text with
  | nil => rfl
  | cons char rest induction =>
      rw [collapseBreaks]
      split
      · exact induction
      · rename_i kept
        rw [collapseBreaks, breakAhead_collapseBreaks, if_neg kept, induction]

/-- No run of blank lines is left for the second pass. -/
theorem capBlankLines_collapseBreaks (text : List Char) :
    capBlankLines (collapseBreaks text) = collapseBreaks text := by
  apply @capBlankLinesAfter_eq_self 0
  intro three
  rcases @exists_ink_of_infix_collapseBreaks _ ['\n'] three with ⟨char, member, inked⟩
  rw [List.mem_singleton.mp member] at inked
  exact absurd inked (by decide)

theorem collapseInner_eq (text : List Char) : collapseInner text = collapseBreaks text :=
  capBlankLines_collapseBreaks text

/-- The inside of a paragraph is its text with every run of white space collapsed, whether or not
the second pass is made. It holds no two breaks without ink between them, so collapsing it again
changes nothing. Searching for the two patterns gives the same. -/
theorem collapseInner_runs (text : List Char) :
    collapseInner text = (blankRuns text).flatMap collapseRun ∧
      (∀ gap, '\n' :: (gap ++ ['\n']) <:+: collapseInner text →
        ∃ char ∈ gap, isBlank char = false) ∧
      capBlankLines (collapseBreaks text) = collapseBreaks text ∧
      collapseInner (collapseInner text) = collapseInner text ∧
      Pattern.blankLines.replaceAll (fun _ => ['\n', '\n'])
        (Pattern.blankLineEnd.replaceAll (fun _ => ['\n']) text) = collapseInner text := by
  rw [Pattern.replaceAll_blankLineEnd, Pattern.replaceAll_blankLines, collapseInner_eq,
    collapseInner_eq]
  exact ⟨collapseBreaks_eq_flatMap text, fun _ => exists_ink_of_infix_collapseBreaks,
    capBlankLines_collapseBreaks text, collapseBreaks_collapseBreaks text,
    capBlankLines_collapseBreaks text⟩

theorem collapseInner_runs_mixed :
    collapseInner "a \n\u00A0\n b\t\r\nc".toList = "a\n b\nc".toList ∧
      ∃ char ∈ " b".toList, isBlank char = false := by
  rcases collapseInner_runs "a \n\u00A0\n b\t\r\nc".toList with ⟨runs, inked, -⟩
  have collapsed : collapseInner "a \n\u00A0\n b\t\r\nc".toList = "a\n b\nc".toList :=
    runs.trans (by decide +kernel)
  refine ⟨collapsed, inked " b".toList ?_⟩
  rw [collapsed]
  exact ⟨['a'], ['c'], rfl⟩

end ChatMarkup.Text
