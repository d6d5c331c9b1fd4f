import ChatMarkup.Proofs.TextElements
import ChatMarkup.Proofs.TidyMessages

/-!
Pages of paragraphs with white space between them. The message has the paragraphs that are not
blank, one blank line apart, whatever stood between them on the page.
-/

namespace ChatMarkup

namespace Text

/-! ## Blocks -/

theorem breakAhead_of_head?_collapseBreaks {text : List Char}
    (starts : (collapseBreaks text).head? = some '\n') : breakAhead text = true := by
  cases text with
  | nil => cases starts
  | cons char rest =>
      rw [collapseBreaks] at starts
      rw [breakAhead]
      split at starts
      · rename_i dropped
        rw [dropped, Bool.or_true]
      · rw [List.head?_cons, Option.some.injEq] at starts
        rw [starts]
        rfl

/-- White space in front of a break is not left there. -/
theorem isChain_collapseBreaks (text : List Char) : (collapseBreaks text).IsChain Flush := by
  induction text with
  | nil => exact .nil
  | cons char rest induction =>
      rw [collapseBreaks]
      split
      · exact induction
      · rename_i kept
        refine List.isChain_cons.mpr ⟨?_, induction⟩
        rintro next starts rfl
        have ahead := breakAhead_of_head?_collapseBreaks starts
        rw [ahead, Bool.and_true] at kept
        rw [Bool.eq_false_iff]
        exact fun horizontal => kept (isBlank_of_isHorizontal char horizontal)

theorem isTidy_trim_collapseInner (text : List Char) : IsTidy (trim (collapseInner text)) where
  lineEnds := by
    have capped := isChain_capBlankLinesAfter 0 (isChain_collapseBreaks text)
    have flush := capped.infix (isInfix_trimWhere isBlank _)
    exact (forall_mem_lines_iff _).mpr
      ⟨flush, getLast?_not_isHorizontal (any_isEdge_of_any_isBlank (getLast?_trimEndWhere _))⟩
  noThreeBreaks := fun three =>
    noThreeBreaks_capBlankLines (collapseBreaks text) (three.trans (isInfix_trimWhere isBlank _))
  starts := any_isEdge_of_any_isBlank (head?_trimWhere _)
  ends := any_isEdge_of_any_isBlank (getLast?_trimEndWhere _)

/-! ## Separators -/

/-- White space between two blocks: any number of lines without text. -/
structure IsSeparator (text : List Char) : Prop where
  edges : ∀ char ∈ text, isEdge char = true
  ends : text = [] ∨ text.getLast? = some '\n'

namespace IsSeparator

variable {gap : List Char}

theorem nil : IsSeparator [] := ⟨List.forall_mem_nil _, .inl rfl⟩

theorem append {left right : List Char} (leftSeparates : IsSeparator left)
    (rightSeparates : IsSeparator right) : IsSeparator (left ++ right) where
  edges := List.forall_mem_append.mpr ⟨leftSeparates.edges, rightSeparates.edges⟩
  ends := by
    rcases rightSeparates.ends with rfl | ends
    · rw [List.append_nil]
      exact leftSeparates.ends
    · right
      rw [List.getLast?_append, ends]
      rfl

theorem blank (separates : IsSeparator gap) : ∀ char ∈ gap, isBlank char = true :=
  fun char member => isBlank_of_isEdge char (separates.edges char member)

theorem free (separates : IsSeparator gap) {char : Char} (inked : isEdge char = false) :
    char ∉ gap :=
  fun member => absurd (separates.edges char member) (Bool.eq_false_iff.mp inked)

end IsSeparator

theorem trimLineEnds_edges {gap : List Char} (edges : ∀ char ∈ gap, isEdge char = true)
    (text : List Char) :
    trimLineEnds (gap ++ '\n' :: text) =
      List.replicate (gap.count '\n' + 1) '\n' ++ trimLineEnds text := by
  have emptyLine {line : List Char} (noBreak : '\n' ∉ line)
      (lineEdges : ∀ char ∈ line, isEdge char = true) : trimLineEnds line = [] := by
    rw [trimLineEnds_of_free noBreak]
    apply trimEndWhere_eq_nil
    intro char member
    have different : char ≠ '\n' := fun isBreak => noBreak (isBreak ▸ member)
    simpa [isEdge, different] using lineEdges char member
  by_cases isBreak : '\n' ∈ gap
  · rcases List.eq_append_cons_of_mem isBreak with ⟨line, later, rfl, noBreak⟩
    have both := List.forall_mem_append.mp edges
    have rest := trimLineEnds_edges (List.forall_mem_cons.mp both.2).2 text
    rw [List.append_assoc, List.cons_append, trimLineEnds_append_break, emptyLine noBreak both.1,
      rest, List.count_append, List.count_cons_self, List.count_eq_zero_of_not_mem noBreak,
      Nat.zero_add, List.replicate_succ]
    rfl
  · rw [trimLineEnds_append_break, emptyLine isBreak edges, List.count_eq_zero_of_not_mem isBreak]
    rfl
termination_by gap.length

/-- All that is left of a separator are its breaks. -/
theorem trimLineEnds_separator {gap : List Char} (separates : IsSeparator gap)
    (text : List Char) :
    trimLineEnds (gap ++ text) = List.replicate (gap.count '\n') '\n' ++ trimLineEnds text := by
  rcases List.eq_nil_or_concat gap with rfl | ⟨front, last, rfl⟩
  · rfl
  · rw [List.concat_eq_append] at separates ⊢
    have isBreak : last = '\n' := by
      have ends := separates.ends.resolve_left (by simp)
      rw [List.getLast?_concat] at ends
      exact Option.some.inj ends
    subst isBreak
    rw [List.append_assoc, List.singleton_append,
      trimLineEnds_edges (List.forall_mem_append.mp separates.edges).1, List.count_append,
      List.count_singleton_self]

/-- Breaks behind a blank line are left out. -/
theorem capBlankLinesAfter_two_breaks (count : Nat) (text : List Char) :
    capBlankLinesAfter 2 (List.replicate count '\n' ++ text) = capBlankLinesAfter 2 text := by
  have breaks : ∀ char ∈ List.replicate count '\n', (char == '\n') = true := by
    intro char member
    rw [List.eq_of_mem_replicate member, beq_self_eq_true]
  rw [capBlankLinesAfter_two, capBlankLinesAfter_two, List.dropWhile_append_of_pos breaks]

/-- The number of breaks that were seen before a text shows in its first breaks only. -/
theorem dropWhile_capBlankLinesAfter (seen : Nat) (text : List Char) :
    (capBlankLinesAfter seen text).dropWhile isEdge = (capBlankLines text).dropWhile isEdge := by
  have atBreak : isEdge '\n' = true := by decide
  rw [capBlankLines]
  cases text with
  | nil => rfl
  | cons char rest =>
      rw [capBlankLinesAfter, capBlankLinesAfter]
      split
      · rw [if_pos Nat.zero_lt_two, List.dropWhile_cons_of_pos atBreak,
          dropWhile_capBlankLinesAfter (0 + 1) rest]
        split
        · rw [List.dropWhile_cons_of_pos atBreak, dropWhile_capBlankLinesAfter (seen + 1) rest]
        · exact dropWhile_capBlankLinesAfter seen rest
      · rfl

theorem trimWhere_capBlankLines_breaks (count : Nat) (text : List Char) :
    trimWhere isEdge (capBlankLines (List.replicate count '\n' ++ text)) =
      trimWhere isEdge (capBlankLines text) := by
  induction count with
  | zero => rfl
  | succ count induction =>
      have atBreak : isEdge '\n' = true := by decide
      rw [← induction, List.replicate_succ, List.cons_append, trimWhere, capBlankLines,
        capBlankLinesAfter, if_pos rfl, if_pos Nat.zero_lt_two, List.dropWhile_cons_of_pos atBreak,
        dropWhile_capBlankLinesAfter]
      rfl

/-- A separator in front of a message does not show. -/
theorem tidy_separator_append {gap : List Char} (separates : IsSeparator gap) (text : List Char) :
    tidy (gap ++ text) = tidy text := by
  rw [tidy, trimLineEnds_separator separates, trimWhere_capBlankLines_breaks, tidy]

/-! ## Blocks and separators -/

theorem capBlankLinesAfter_append_cons (seen : Nat) (front : List Char) {last : Char}
    (noBreak : last ≠ '\n') (tail : List Char) :
    capBlankLinesAfter seen (front ++ last :: tail) =
      capBlankLinesAfter seen (front ++ [last]) ++ capBlankLines tail := by
  induction front generalizing seen with
  | nil =>
      rw [List.nil_append, List.nil_append, capBlankLinesAfter, if_neg noBreak, capBlankLinesAfter,
        if_neg noBreak]
      rfl
  | cons char front induction =>
      rw [List.cons_append, List.cons_append, capBlankLinesAfter, capBlankLinesAfter, induction,
        induction, induction]
      split
      · split <;> rfl
      · rfl

namespace IsTidy

variable {block gap : List Char}

theorem capBlankLines_append (isTidy : IsTidy block) (nonempty : block ≠ []) (text : List Char) :
    capBlankLines (block ++ text) = block ++ capBlankLines text := by
  have capped : capBlankLines block = block :=
    @capBlankLinesAfter_eq_self 0 block isTidy.noThreeBreaks
  rcases List.eq_nil_or_concat block with rfl | ⟨front, last, rfl⟩
  · exact absurd rfl nonempty
  · have ends := isTidy.ends
    rw [List.concat_eq_append] at capped ends ⊢
    rw [List.getLast?_concat] at ends
    have noBreak : last ≠ '\n' := by
      rintro rfl
      exact absurd ends (by decide)
    rw [capBlankLines] at capped
    rw [capBlankLines, List.append_assoc, List.singleton_append,
      capBlankLinesAfter_append_cons 0 front noBreak, capped]

theorem capBlankLines_trimLineEnds_append (isTidy : IsTidy block) (nonempty : block ≠ [])
    (separates : IsSeparator gap) (text : List Char) :
    capBlankLines (trimLineEnds (block ++ '\n' :: '\n' :: (gap ++ text))) =
      block ++ '\n' :: '\n' :: capBlankLinesAfter 2 (trimLineEnds text) := by
  have blankLine : trimLineEnds ('\n' :: (gap ++ text)) =
      '\n' :: (List.replicate (gap.count '\n') '\n' ++ trimLineEnds text) := by
    rw [trimLineEnds_cons (by decide), trimLineEnds_separator separates]
  rw [trimLineEnds_append_break, trimLineEnds_eq_self isTidy.lineEnds, blankLine,
    isTidy.capBlankLines_append nonempty, capBlankLines, capBlankLinesAfter, if_pos rfl,
    if_pos Nat.zero_lt_two, capBlankLinesAfter, if_pos rfl, if_pos Nat.one_lt_two,
    capBlankLinesAfter_two_breaks]

/-- What stands behind the last block does not show. -/
theorem tidy_append_separator (isTidy : IsTidy block) (nonempty : block ≠ [])
    (separates : IsSeparator gap) : tidy (block ++ '\n' :: '\n' :: gap) = block := by
  have capped := isTidy.capBlankLines_trimLineEnds_append nonempty separates []
  have edges : ∀ char ∈ ['\n', '\n'], isEdge char = true := by simp [isEdge]
  rw [List.append_nil] at capped
  rw [tidy, capped]
  exact (trimWhere_append_dropped block edges).trans
    (trimWhere_eq_self isTidy.starts isTidy.ends)

/-- Between two blocks there is one blank line, however many there were. -/
theorem tidy_append_block (isTidy : IsTidy block) (nonempty : block ≠ [])
    (separates : IsSeparator gap) {text : List Char} (textNonempty : text ≠ [])
    (starts : text.head?.any isEdge = false) :
    tidy (block ++ '\n' :: '\n' :: (gap ++ text)) = block ++ '\n' :: '\n' :: tidy text := by
  rcases List.exists_cons_of_ne_nil textNonempty with ⟨first, rest, rfl⟩
  have inked : isEdge first = false := starts
  have noBreak : first ≠ '\n' := by
    rintro rfl
    exact absurd inked (by decide)
  have trimmed := trimLineEnds_cons (Bool.or_eq_false_iff.mp inked).2 rest
  have later : tidy (first :: rest) =
      first :: trimEndWhere isEdge (capBlankLines (trimLineEnds rest)) := by
    rw [tidy, trimmed, capBlankLines, capBlankLinesAfter, if_neg noBreak]
    exact trimWhere_append_cons [] inked _
  have kept : (block ++ ['\n', '\n']).dropWhile isEdge = block ++ ['\n', '\n'] := by
    rcases List.exists_cons_of_ne_nil nonempty with ⟨char, others, rfl⟩
    exact List.dropWhile_cons_of_neg (Bool.eq_false_iff.mp isTidy.starts)
  have whole := trimWhere_append_cons (block ++ ['\n', '\n']) inked
    (capBlankLines (trimLineEnds rest))
  rw [kept, ← later, List.append_assoc, List.append_assoc] at whole
  rw [tidy, isTidy.capBlankLines_trimLineEnds_append nonempty separates, trimmed,
    capBlankLinesAfter, if_neg noBreak]
  exact whole

end IsTidy

end Text

open Text

/-! ## Paragraphs -/

def shownParagraphs (texts : List (List Char)) : List (List Char) :=
  (texts.map fun text => trim (collapseInner text)).filter (· ≠ [])

theorem shownParagraphs_cons_of_blank {text : List Char} (blank : trim (collapseInner text) = [])
    (rest : List (List Char)) : shownParagraphs (text :: rest) = shownParagraphs rest :=
  List.filter_cons_of_neg (by simpa using blank)

theorem shownParagraphs_cons {text : List Char} (inked : trim (collapseInner text) ≠ [])
    (rest : List (List Char)) :
    shownParagraphs (text :: rest) = trim (collapseInner text) :: shownParagraphs rest :=
  List.filter_cons_of_pos (by simpa using inked)

namespace TextElement

/-- A paragraph and the text behind it, before the message is tidied. -/
def paragraphText (element : TextElement) : List Char :=
  Rule.apply element.text .paragraph ++ element.after

variable {element : TextElement}

theorem paragraphText_of_blank (blank : trim (collapseInner element.text) = []) :
    element.paragraphText = element.after := by
  rw [paragraphText, Rule.apply, blank]
  rfl

theorem paragraphText_of_inked (inked : trim (collapseInner element.text) ≠ []) :
    element.paragraphText = trim (collapseInner element.text) ++ '\n' :: '\n' :: element.after := by
  rw [paragraphText, Rule.apply]
  split
  · rename_i empty
    exact absurd empty inked
  · exact List.append_assoc _ _ _

variable {elements : List TextElement}

/-- The paragraphs behind one that is not blank. -/
theorem tidy_append_paragraphText
    (separate : ∀ element ∈ elements, IsSeparator element.after) {block gap : List Char}
    (isTidy : IsTidy block) (nonempty : block ≠ []) (separates : IsSeparator gap) :
    tidy (block ++ '\n' :: '\n' :: (gap ++ elements.flatMap paragraphText)) =
      ['\n', '\n'].intercalate (block :: shownParagraphs (elements.map text)) := by
  induction elements generalizing block gap with
  | nil =>
      rw [List.flatMap_nil, List.append_nil, isTidy.tidy_append_separator nonempty separates]
      exact List.intercalate_singleton.symm
  | cons element rest induction =>
      rw [List.forall_mem_cons] at separate
      rw [List.flatMap_cons, List.map_cons]
      rcases eq_or_ne (trim (collapseInner element.text)) [] with blank | inked
      -- The gaps on either side of a blank paragraph are one gap.
      · rw [paragraphText_of_blank blank, shownParagraphs_cons_of_blank blank, ← List.append_assoc]
        exact induction separate.2 isTidy nonempty (separates.append separate.1)
      · have shown := isTidy_trim_collapseInner element.text
        have later := induction separate.2 shown inked separate.1
        have starts := shown.starts
        rw [← List.head?_append_of_ne_nil _ inked] at starts
        have both := isTidy.tidy_append_block nonempty separates
          (List.append_ne_nil_of_left_ne_nil inked _) starts
        rw [later] at both
        rw [paragraphText_of_inked inked, shownParagraphs_cons inked, List.append_assoc,
          List.intercalate_cons_cons]
        exact both.trans (List.append_assoc block ['\n', '\n'] _).symm

theorem tidy_paragraphText (separate : ∀ element ∈ elements, IsSeparator element.after)
    {gap : List Char} (separates : IsSeparator gap) :
    tidy (gap ++ elements.flatMap paragraphText) =
      ['\n', '\n'].intercalate (shownParagraphs (elements.map text)) := by
  induction elements generalizing gap with
  | nil => exact tidy_separator_append separates []
  | cons element rest induction =>
      rw [List.forall_mem_cons] at separate
      rw [List.flatMap_cons, List.map_cons]
      rcases eq_or_ne (trim (collapseInner element.text)) [] with blank | inked
      · rw [paragraphText_of_blank blank, shownParagraphs_cons_of_blank blank, ← List.append_assoc]
        exact induction separate.2 (separates.append separate.1)
      · rw [paragraphText_of_inked inked, shownParagraphs_cons inked,
          tidy_separator_append separates, List.append_assoc]
        exact tidy_append_paragraphText separate.2 (isTidy_trim_collapseInner element.text) inked
          separate.1

end TextElement

/-! ## Pages of paragraphs -/

structure TextElement.IsParagraph (element : TextElement) : Prop where
  isBlock : element.name ∈ ["p", "div", "section", "article"]
  bracketFree : '<' ∉ element.text
  ampersandFree : '&' ∉ element.text
  separates : IsSeparator element.after

namespace TextElement.IsParagraph

variable {element : TextElement} (isParagraph : element.IsParagraph)
include isParagraph

theorem isPlain : element.IsPlain where
  plain := by
    have plain : ∀ name ∈ ["p", "div", "section", "article"],
        isTagName name.toList = true ∧ name.toList ∉ Source.hiddenNames := by decide
    have named := plain element.name isParagraph.isBlock
    exact ⟨named.1, named.2⟩
  holds := by
    have holds : ∀ name ∈ ["p", "div", "section", "article"],
        Markup.contentless.contains name = false := by decide
    exact holds element.name isParagraph.isBlock
  textFree := isParagraph.bracketFree
  afterFree := isParagraph.separates.free (by decide)

theorem elementRule_name (options : Options) :
    elementRule options element.name = .paragraph := by
  have rules : ∀ name ∈ ["p", "div", "section", "article"],
      lowercaseName name = name ∧ Rule.ofElement name = .paragraph := by decide
  have rule := rules element.name isParagraph.isBlock
  exact (elementRule_of_lower options rule.1).trans rule.2

theorem formatAll_nodes (options : Options) :
    Node.formatAll options element.nodes = element.paragraphText := by
  rw [nodes, Node.formatAll,
    format_item options (isParagraph.elementRule_name options) (fun _ _ => rfl) rfl,
    formatAll_textNodes, shownText_of_free options isParagraph.ampersandFree,
    shownText_of_free options (isParagraph.separates.free (by decide)), paragraphText]

/-- The white space behind a paragraph may be left out. -/
theorem closed : TextElement.IsParagraph { element with after := [] } where
  isBlock := isParagraph.isBlock
  bracketFree := isParagraph.bracketFree
  ampersandFree := isParagraph.ampersandFree
  separates := .nil

end TextElement.IsParagraph

section Page

open TextElement

variable {options : Options} {elements : List TextElement}

theorem formatAll_paragraphText (areParagraphs : ∀ element ∈ elements, element.IsParagraph) :
    Node.formatAll options (elements.flatMap nodes) = elements.flatMap paragraphText := by
  induction elements with
  | nil => rfl
  | cons element rest induction =>
      rw [List.forall_mem_cons] at areParagraphs
      rw [List.flatMap_cons, List.flatMap_cons, formatAll_append, induction areParagraphs.2,
        areParagraphs.1.formatAll_nodes]

theorem exists_source_bracketed (front : List TextElement) {last : TextElement}
    (closed : last.after = []) :
    ∃ inner, (front ++ [last]).flatMap source = '<' :: (inner ++ ['>']) := by
  have lastTag : last.source =
      '<' :: (last.name.toList ++ '>' :: (last.text ++ '<' :: '/' :: last.name.toList) ++
        ['>']) := by
    simp [source, Node.startTag, Node.endTag, closed]
  cases front with
  | nil => exact ⟨_, (List.flatMap_singleton _ _).trans lastTag⟩
  | cons first others =>
      rw [List.flatMap_append, List.flatMap_singleton, lastTag, ← List.cons_append,
        ← List.append_assoc]
      exact ⟨_, rfl⟩

/-- The white space around the paragraphs is not part of the page. -/
theorem trim_paragraphs {before : List Char} (separates : IsSeparator before)
    (front : List TextElement) {last : TextElement} (isParagraph : last.IsParagraph) :
    trim (before ++ (front ++ [last]).flatMap source) =
      (front ++ [{ last with after := [] }]).flatMap source := by
  have behind : (front ++ [last]).flatMap source =
      (front ++ [{ last with after := [] }]).flatMap source ++ last.after := by
    simp [source]
  rcases exists_source_bracketed front (rfl : ({ last with after := [] } : TextElement).after = [])
    with ⟨inner, page⟩
  rw [behind, trim, trimWhere_dropped_append separates.blank,
    trimWhere_append_dropped _ isParagraph.separates.blank, page]
  exact trim_bracketed inner

theorem convertText_of_trim_eq {page : List Char}
    (areParagraphs : ∀ element ∈ elements, element.IsParagraph)
    (trimmed : trim page = elements.flatMap source) :
    convertText options page =
      ['\n', '\n'].intercalate (shownParagraphs (elements.map text)) := by
  have isPlain : ∀ element ∈ elements, element.IsPlain :=
    fun element member => (areParagraphs element member).isPlain
  have separate : ∀ element ∈ elements, IsSeparator element.after :=
    fun element member => (areParagraphs element member).separates
  have again : trim (Node.writeAll (elements.flatMap nodes)) =
      Node.writeAll (elements.flatMap nodes) := by
    rw [writeAll_nodes isPlain, ← trimmed, trim_trim]
  rw [← convertText_trim, trimmed, ← writeAll_nodes isPlain,
    convertText_writeAll options (areWellFormed_nodes isPlain) again,
    formatAll_paragraphText areParagraphs]
  exact tidy_paragraphText separate .nil

theorem convertText_paragraphs {before : List Char} (separates : IsSeparator before)
    (areParagraphs : ∀ element ∈ elements, element.IsParagraph) :
    convertText options (before ++ elements.flatMap source) =
      ['\n', '\n'].intercalate (shownParagraphs (elements.map text)) := by
  rcases List.eq_nil_or_concat elements with rfl | ⟨front, last, rfl⟩
  · apply convertText_of_trim_eq areParagraphs
    rw [List.flatMap_nil, List.append_nil, trim_eq_nil separates.blank]
  · rw [List.concat_eq_append] at areParagraphs ⊢
    have each := List.forall_mem_append.mp areParagraphs
    have lastParagraph := List.forall_mem_singleton.mp each.2
    have closed : ∀ element ∈ front ++ [{ last with after := [] }], element.IsParagraph :=
      List.forall_mem_append.mpr ⟨each.1, List.forall_mem_singleton.mpr lastParagraph.closed⟩
    rw [convertText_of_trim_eq closed (trim_paragraphs separates front lastParagraph),
      List.map_append, List.map_append]
    rfl

end Page

/-- Blocks that are set as paragraphs show what is left of them, one blank line apart. Neither the
blocks that are blank nor the white space between the blocks make a difference. -/
theorem convert_paragraphs (options : Options) (before : List Char) (elements : List TextElement)
    (separates : IsSeparator before)
    (areParagraphs : ∀ element ∈ elements, element.IsParagraph) :
    convert (String.ofList (before ++ elements.flatMap TextElement.source)) options =
      String.ofList ("\n\n".toList.intercalate
        ((elements.map fun element => trim (collapseInner element.text)).filter (· ≠ []))) := by
  rw [convert, String.toList_ofList, convertText_paragraphs separates areParagraphs,
    shownParagraphs, List.map_map]
  rfl

theorem convert_paragraphs_mixed :
    convert
        "\t\n<p> a \n\n b </p> \r\n<div>\t</div><section>c > d</section>\n\n<article></article>\n"
        {} =
      "a\n b\n\nc > d" := by
  have separates {gap : List Char} (edges : gap.all isEdge = true)
      (ends : gap.getLast? = some '\n') : IsSeparator gap := ⟨List.all_eq_true.mp edges, .inr ends⟩
  refine Eq.trans (congrArg (convert · {}) ?_) ((convert_paragraphs {} "\t\n".toList
    [⟨"p", " a \n\n b ".toList, " \r\n".toList⟩, ⟨"div", "\t".toList, []⟩,
      ⟨"section", "c > d".toList, "\n\n".toList⟩, ⟨"article", [], "\n".toList⟩]
    (separates (by decide) rfl) ?_).trans ?_)
  · decide +kernel
  · intro element member
    simp only [List.mem_cons, List.not_mem_nil, or_false] at member
    rcases member with rfl | rfl | rfl | rfl
    · exact ⟨by decide, by decide, by decide, separates (by decide) rfl⟩
    · exact ⟨by decide, by decide, by decide, .nil⟩
    · exact ⟨by decide, by decide, by decide, separates (by decide) rfl⟩
    · exact ⟨by decide, by decide, by decide, separates (by decide) rfl⟩
  · decide +kernel

end ChatMarkup
