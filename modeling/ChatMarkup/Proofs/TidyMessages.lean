import Mathlib.Data.List.Chain
import ChatMarkup.Proofs.WrittenPage

/-!
The normal form of a message: no white space at the end of a line, never more than one blank line,
and nothing but text at the edges. Each of the three passes over line breaks gives a part of it, and
none of them takes away what the passes before it gave.
-/

namespace ChatMarkup

namespace Text

/-- No line ends with white space, no three breaks follow each other, and the text neither starts
nor ends with white space. White space is what a message loses at its edges. -/
structure IsTidy (text : List Char) : Prop where
  lineEnds : ∀ line ∈ lines text, line.getLast?.any isHorizontal = false
  noThreeBreaks : ¬['\n', '\n', '\n'] <:+: text
  starts : text.head?.any isEdge = false
  ends : text.getLast?.any isEdge = false

/-! ## The ends of lines -/

theorem exists_lines_eq_cons (text : List Char) : ∃ first later, lines text = first :: later :=
  List.exists_cons_of_ne_nil (splitAtChar_ne_nil '\n' text)

theorem lines_break (rest : List Char) : lines ('\n' :: rest) = [] :: lines rest := by
  rw [lines, splitAtChar, if_pos rfl, lines]

theorem lines_cons {char : Char} {rest piece : List Char} {pieces : List (List Char)}
    (noBreak : char ≠ '\n') (split : lines rest = piece :: pieces) :
    lines (char :: rest) = (char :: piece) :: pieces :=
  splitAtChar_append_of_free (List.not_mem_cons_of_ne_of_not_mem noBreak.symm List.not_mem_nil)
    split

/-- The first of two neighbours is not white space at the end of a line. -/
def Flush (char next : Char) : Prop := next = '\n' → isHorizontal char = false

theorem flush_break (next : Char) : Flush '\n' next := fun _ => rfl

/-- The lines of a text end with ink if every break follows ink and the last line ends with it. -/
theorem forall_mem_lines_iff (text : List Char) :
    (∀ line ∈ lines text, line.getLast?.any isHorizontal = false) ↔
      text.IsChain Flush ∧ text.getLast?.any isHorizontal = false := by
  induction text with
  | nil => simp [lines, splitAtChar]
  | cons char rest induction =>
      rcases exists_lines_eq_cons rest with ⟨piece, pieces, split⟩
      by_cases isBreak : char = '\n'
      · subst isBreak
        have chain : ('\n' :: rest).IsChain Flush ↔ rest.IsChain Flush := by
          rw [List.isChain_cons]
          exact and_iff_right fun next _ => flush_break next
        have last : ('\n' :: rest).getLast?.any isHorizontal = rest.getLast?.any isHorizontal := by
          cases rest <;> rfl
        rw [lines_break, List.forall_mem_cons, chain, last, ← induction]
        exact and_iff_right rfl
      · rw [lines_cons isBreak split]
        cases rest with
        | nil =>
            rcases List.cons.inj split with ⟨rfl, rfl⟩
            simp
        | cons next others =>
            rw [List.isChain_cons_cons, List.getLast?_cons_cons, and_assoc, ← induction]
            by_cases nextBreak : next = '\n'
            · subst nextBreak
              rw [lines_break] at split ⊢
              rcases List.cons.inj split with ⟨rfl, rfl⟩
              have atEnd : Flush char '\n' ↔ [char].getLast?.any isHorizontal = false :=
                ⟨fun flush => flush rfl, fun clean _ => clean⟩
              rw [List.forall_mem_cons, List.forall_mem_cons, atEnd]
              exact and_congr_right fun _ => (and_iff_right rfl).symm
            · have inLine : Flush char next := fun isBreak => absurd isBreak nextBreak
              rcases exists_lines_eq_cons others with ⟨tail, later, splitOthers⟩
              have first := (lines_cons nextBreak splitOthers).symm.trans split
              rcases List.cons.inj first with ⟨rfl, rfl⟩
              rw [and_iff_right inLine, lines_cons nextBreak splitOthers, List.forall_mem_cons,
                List.forall_mem_cons, List.getLast?_cons_cons]

theorem lines_trimLineEnds (text : List Char) :
    lines (trimLineEnds text) = (lines text).map (trimEndWhere isHorizontal) := by
  refine splitAtChar_joinWithChar ?_ ?_
  · rw [Ne, List.map_eq_nil_iff]
    exact splitAtChar_ne_nil '\n' text
  · rw [List.forall_mem_map]
    exact fun line member isBreak =>
      notMem_of_mem_splitAtChar member ((trimEndWhere_sublist isHorizontal line).mem isBreak)

theorem trimLineEnds_eq_self {text : List Char}
    (clean : ∀ line ∈ lines text, line.getLast?.any isHorizontal = false) :
    trimLineEnds text = text := by
  have kept : (lines text).map (trimEndWhere isHorizontal) = lines text :=
    (List.map_congr_left fun line member => trimEndWhere_eq_self (clean line member)).trans
      (List.map_id _)
  rw [trimLineEnds, kept]
  exact joinWithChar_splitAtChar '\n' text

theorem trimLineEnds_append_break (left right : List Char) :
    trimLineEnds (left ++ '\n' :: right) = trimLineEnds left ++ '\n' :: trimLineEnds right := by
  rw [trimLineEnds, lines, splitAtChar_append_separator, List.map_append]
  refine joinWithChar_append '\n' ?_ ?_
  · rw [Ne, List.map_eq_nil_iff]
    exact splitAtChar_ne_nil '\n' left
  · rw [Ne, List.map_eq_nil_iff]
    exact splitAtChar_ne_nil '\n' right

theorem trimLineEnds_of_free {line : List Char} (noBreak : '\n' ∉ line) :
    trimLineEnds line = trimEndWhere isHorizontal line := by
  rw [trimLineEnds, lines, splitAtChar_of_free noBreak]
  rfl

theorem trimLineEnds_cons {char : Char} (kept : isHorizontal char = false) (rest : List Char) :
    trimLineEnds (char :: rest) = char :: trimLineEnds rest := by
  by_cases isBreak : char = '\n'
  · rw [isBreak]
    exact trimLineEnds_append_break [] rest
  · rcases exists_lines_eq_cons rest with ⟨piece, pieces, split⟩
    have first := trimEndWhere_append_cons [] kept piece
    rw [List.nil_append, List.nil_append] at first
    rw [trimLineEnds, trimLineEnds, lines_cons isBreak split, split, List.map_cons, List.map_cons,
      first, unlines, unlines, joinWithChar_cons_eq_flatMap, joinWithChar_cons_eq_flatMap,
      List.cons_append]

/-! ## Blank lines -/

theorem head?_capBlankLines (text : List Char) : (capBlankLines text).head? = text.head? := by
  cases text with
  | nil => rfl
  | cons char rest =>
      rw [capBlankLines, capBlankLinesAfter]
      split
      · rename_i isBreak
        rw [isBreak]
        rfl
      · rfl

/-- A break that is left out stands behind another one, so that no other character comes to stand
before a break. -/
theorem isChain_capBlankLinesAfter (seen : Nat) {text : List Char} (flush : text.IsChain Flush) :
    (capBlankLinesAfter seen text).IsChain Flush := by
  induction text generalizing seen with
  | nil => exact .nil
  | cons char rest induction =>
      rw [List.isChain_cons] at flush
      rw [capBlankLinesAfter]
      split
      · split
        · exact List.isChain_cons.mpr ⟨fun next _ => flush_break next, induction _ flush.2⟩
        · exact induction _ flush.2
      · refine List.isChain_cons.mpr ⟨?_, induction _ flush.2⟩
        rw [← capBlankLines, head?_capBlankLines]
        exact flush.1

theorem capBlankLinesAfter_idem (seen : Nat) (text : List Char) :
    capBlankLinesAfter seen (capBlankLinesAfter seen text) = capBlankLinesAfter seen text := by
  induction text generalizing seen with
  | nil => rfl
  | cons char rest induction =>
      rw [capBlankLinesAfter]
      split
      · split
        · rename_i fits
          rw [capBlankLinesAfter, if_pos rfl, if_pos fits, induction]
        · exact induction seen
      · rename_i different
        rw [capBlankLinesAfter, if_neg different, induction]

/-- Behind two breaks the other breaks of the run are left out. -/
theorem capBlankLinesAfter_two (text : List Char) :
    capBlankLinesAfter 2 text = capBlankLines (text.dropWhile (· == '\n')) := by
  induction text with
  | nil => rfl
  | cons char rest induction =>
      rw [capBlankLinesAfter]
      split
      · rename_i isBreak
        simp [isBreak, induction]
      · rename_i different
        simp [different, capBlankLines, capBlankLinesAfter]

theorem capBlankLinesAfter_sublist (seen : Nat) (text : List Char) :
    (capBlankLinesAfter seen text).Sublist text := by
  induction text generalizing seen with
  | nil => exact .slnil
  | cons char rest induction =>
      rw [capBlankLinesAfter]
      split
      · rename_i isBreak
        split
        · exact isBreak ▸ (induction _).cons_cons _
        · exact (induction _).cons _
      · exact (induction _).cons_cons _

/-- Of three breaks in a row at least one is left out. -/
theorem length_capBlankLines_lt {text : List Char} (three : ['\n', '\n', '\n'] <:+: text) :
    (capBlankLines text).length < text.length := by
  rcases three with ⟨left, right, rfl⟩
  rcases capBlankLinesAfter_append 0 (left ++ ['\n', '\n', '\n']) right with ⟨afterBreaks, whole⟩
  rcases capBlankLinesAfter_append 0 left ['\n', '\n', '\n'] with ⟨before, front⟩
  have breaks : (capBlankLinesAfter before ['\n', '\n', '\n']).length < 3 := by
    match before with
    | 0 => decide
    | 1 => decide
    | more + 2 => simp [capBlankLinesAfter, Nat.not_lt.mpr (Nat.le_add_left 2 more)]
  have leftLength := (capBlankLinesAfter_sublist 0 left).length_le
  have rightLength := (capBlankLinesAfter_sublist afterBreaks right).length_le
  rw [capBlankLines, whole, front]
  simp only [List.length_append, List.length_cons, List.length_nil] at *
  omega

theorem noThreeBreaks_capBlankLines (text : List Char) :
    ¬['\n', '\n', '\n'] <:+: capBlankLines text := by
  intro three
  have shorter := length_capBlankLines_lt three
  rw [capBlankLines, capBlankLines, capBlankLinesAfter_idem] at shorter
  exact Nat.lt_irrefl _ shorter

theorem capBlankLinesAfter_eq_self {seen : Nat} {text : List Char}
    (noThree : ¬['\n', '\n', '\n'] <:+: List.replicate seen '\n' ++ text) :
    capBlankLinesAfter seen text = text := by
  induction text generalizing seen with
  | nil => rfl
  | cons char rest induction =>
      rw [capBlankLinesAfter]
      split
      · rename_i isBreak
        subst isBreak
        have moved : List.replicate seen '\n' ++ '\n' :: rest =
            List.replicate (seen + 1) '\n' ++ rest := by
          rw [List.replicate_succ', List.append_assoc, List.singleton_append]
        rw [moved] at noThree
        split
        · rw [induction noThree]
        · rename_i many
          have starts : ['\n', '\n', '\n'] <+: List.replicate (seen + 1) '\n' := by
            have long : seen + 1 = 3 + (seen - 2) := by omega
            rw [long, List.replicate_add]
            exact List.prefix_append _ _
          exact absurd (starts.trans (List.prefix_append _ _)).isInfix noThree
      · have later : ¬['\n', '\n', '\n'] <:+: List.replicate 0 '\n' ++ rest := fun found =>
          noThree (found.trans ((List.suffix_cons char rest).trans
            (List.suffix_append _ _)).isInfix)
        rw [induction later]

/-! ## Tidy texts -/

theorem getLast?_not_isHorizontal {text : List Char} (ends : text.getLast?.any isEdge = false) :
    text.getLast?.any isHorizontal = false := by
  cases last : text.getLast? with
  | none => rfl
  | some char =>
      rw [last] at ends
      exact (Bool.or_eq_false_iff.mp ends).2

theorem any_isEdge_of_any_isBlank {char : Option Char} (notBlank : char.any isBlank = false) :
    char.any isEdge = false := by
  cases char with
  | none => rfl
  | some char =>
      rw [Option.any_some, Bool.eq_false_iff] at notBlank ⊢
      exact fun edge => notBlank (isBlank_of_isEdge char edge)

theorem isTidy_tidy (text : List Char) : IsTidy (tidy text) where
  lineEnds := by
    have clean : ∀ line ∈ lines (trimLineEnds text), line.getLast?.any isHorizontal = false := by
      rw [lines_trimLineEnds, List.forall_mem_map]
      exact fun line _ => getLast?_trimEndWhere line
    have capped := isChain_capBlankLinesAfter 0 ((forall_mem_lines_iff _).mp clean).1
    have flush := capped.infix (isInfix_trimWhere isEdge _)
    exact (forall_mem_lines_iff _).mpr
      ⟨flush, getLast?_not_isHorizontal (getLast?_trimEndWhere _)⟩
  noThreeBreaks := fun three =>
    noThreeBreaks_capBlankLines (trimLineEnds text) (three.trans (isInfix_trimWhere isEdge _))
  starts := head?_trimWhere _
  ends := getLast?_trimEndWhere _

theorem IsTidy.tidy_eq_self {text : List Char} (isTidy : IsTidy text) : tidy text = text := by
  have capped : capBlankLines text = text :=
    @capBlankLinesAfter_eq_self 0 text isTidy.noThreeBreaks
  rw [tidy, trimLineEnds_eq_self isTidy.lineEnds, capped,
    trimWhere_eq_self isTidy.starts isTidy.ends]

structure IsTrimmedLine (text : List Char) : Prop where
  nonempty : text ≠ []
  noBreak : '\n' ∉ text
  starts : text.head?.any isEdge = false
  ends : text.getLast?.any isEdge = false

theorem isTidy_unlines {pieces : List (List Char)}
    (trimmed : ∀ piece ∈ pieces, IsTrimmedLine piece) : IsTidy (unlines pieces) := by
  by_cases empty : pieces = []
  · subst empty
    exact isTidy_tidy []
  have split : lines (unlines pieces) = pieces :=
    splitAtChar_joinWithChar empty fun piece member => (trimmed piece member).noBreak
  constructor
  case lineEnds =>
    rw [split]
    exact fun line member => getLast?_not_isHorizontal (trimmed line member).ends
  case noThreeBreaks =>
    rintro ⟨left, right, whole⟩
    have blankLine : [] ∈ lines (unlines pieces) := by
      rw [← whole, List.append_assoc]
      change [] ∈ lines (left ++ '\n' :: '\n' :: '\n' :: right)
      rw [lines, splitAtChar_append_separator, ← lines, ← lines, lines_break]
      exact List.mem_append_right _ List.mem_cons_self
    rw [split] at blankLine
    exact (trimmed [] blankLine).nonempty rfl
  case starts =>
    rcases List.exists_cons_of_ne_nil empty with ⟨first, later, rfl⟩
    have begins := trimmed first List.mem_cons_self
    rw [unlines, joinWithChar_cons_eq_flatMap, List.head?_append_of_ne_nil _ begins.nonempty]
    exact begins.starts
  case ends =>
    rcases List.eq_nil_or_concat pieces with rfl | ⟨front, last, rfl⟩
    · exact absurd rfl empty
    rw [List.concat_eq_append] at trimmed ⊢
    have closes := trimmed last (by simp)
    by_cases alone : front = []
    · subst alone
      exact closes.ends
    · have single : joinWithChar '\n' [last] = last := rfl
      rw [unlines, joinWithChar_append '\n' alone (List.cons_ne_nil last []), single,
        List.append_cons, List.getLast?_append_of_ne_nil _ closes.nonempty]
      exact closes.ends

end Text

open Text

/-! ## Messages -/

theorem isTidy_convertText (options : Options) (page : List Char) :
    IsTidy (convertText options page) := by
  rw [convertText_eq_message, message]
  exact isTidy_tidy _

/-- Every message is in normal form, and tidying it once more changes nothing. -/
theorem convert_isTidy (html : String) (options : Options) :
    IsTidy (convert html options).toList ∧
      tidy (convert html options).toList = (convert html options).toList := by
  have isTidy := isTidy_convertText options html.toList
  rw [convert, String.toList_ofList]
  exact ⟨isTidy, isTidy.tidy_eq_self⟩

end ChatMarkup
