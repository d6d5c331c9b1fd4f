import ChatMarkup.Proofs.TextElements
import ChatMarkup.Proofs.TidyMessages

/-!
Lists whose items are single lines. Every item that is not blank makes one line of the message.
Ordered lists number these lines without a gap, and what stands between the items does not show.
-/

namespace ChatMarkup

open Text Document

/-! ## The lines of a list -/

/-- The line of a text by its number, counted from one. -/
def ListKind.line : ListKind → Nat → List Char → List Char
  | .unordered, _, text => "- ".toList ++ text
  | .ordered, number, text => (toString number).toList ++ (". ".toList ++ text)

theorem isEdge_of_isDigit {char : Char} (digit : char.isDigit = true) : isEdge char = false := by
  rw [Bool.eq_false_iff]
  intro edge
  simp only [isEdge, isHorizontal, Bool.or_eq_true, beq_iff_eq] at edge
  rcases edge with rfl | (rfl | rfl) | rfl <;> revert digit <;> decide

namespace Rule

theorem bullet_append (kind : ListKind) (position : Nat) (text : List Char) :
    bullet kind position ++ text = kind.line (position + 1) text := by
  cases kind with
  | unordered => rfl
  | ordered =>
      have numeral : (toString (position + 1)).toList = Nat.toDigits 10 (position + 1) :=
        Nat.toList_repr
      rw [bullet, ListKind.line, numeral, List.append_assoc]

/-- A bullet begins with ink and stays on its line. -/
theorem exists_bullet_eq_cons (kind : ListKind) (position : Nat) :
    ∃ first rest, bullet kind position = first :: rest ∧ isEdge first = false ∧
      '\n' ∉ bullet kind position := by
  cases kind with
  | unordered => exact ⟨'-', [' '], rfl, by decide, (by decide : '\n' ∉ "- ".toList)⟩
  | ordered =>
      have digits : ∀ char ∈ Nat.toDigits 10 (position + 1), isEdge char = false :=
        fun char member =>
          isEdge_of_isDigit (Nat.isDigit_of_mem_toDigits (by decide) (by decide) member)
      rcases List.exists_cons_of_ne_nil (@Nat.toDigits_ne_nil (position + 1) 10) with
        ⟨first, rest, numeral⟩
      refine ⟨first, rest ++ ". ".toList, ?_, ?_, ?_⟩
      · rw [bullet, numeral, List.cons_append]
      · exact digits first (numeral ▸ List.mem_cons_self)
      · rw [bullet, List.mem_append, not_or]
        exact ⟨fun isBreak => absurd (digits '\n' isBreak) (by decide), by decide⟩

theorem isTrimmedLine_bullet (kind : ListKind) (position : Nat) {text : List Char}
    (trimmed : IsTrimmedLine text) : IsTrimmedLine (bullet kind position ++ text) := by
  rcases exists_bullet_eq_cons kind position with ⟨first, rest, whole, inked, noBreak⟩
  constructor
  case nonempty =>
    rw [whole]
    exact List.cons_ne_nil _ _
  case noBreak =>
    rw [List.mem_append, not_or]
    exact ⟨noBreak, trimmed.noBreak⟩
  case starts =>
    rw [whole]
    exact inked
  case ends =>
    rw [List.getLast?_append_of_ne_nil _ trimmed.nonempty]
    exact trimmed.ends

theorem isTrimmedLine_of_mem_survivors {items : List (List Char)}
    (noBreaks : ∀ item ∈ items, '\n' ∉ trim item) :
    ∀ text ∈ survivors items, IsTrimmedLine text := by
  intro text member
  rw [survivors, List.mem_filter, List.mem_map] at member
  rcases member with ⟨⟨item, inItems, rfl⟩, notEmpty⟩
  exact {
    nonempty := by simpa using notEmpty
    noBreak := noBreaks item inItems
    starts := any_isEdge_of_any_isBlank (head?_trimWhere item)
    ends := any_isEdge_of_any_isBlank (getLast?_trimEndWhere _) }

theorem isTidy_applyList (kind : ListKind) {items : List (List Char)}
    (noBreaks : ∀ item ∈ items, '\n' ∉ item) : IsTidy (applyList kind items) := by
  have noTrimmedBreaks : ∀ item ∈ items, '\n' ∉ trim item := fun item member isBreak =>
    noBreaks item member ((trim_sublist item).mem isBreak)
  apply isTidy_unlines
  intro line member
  rcases List.mem_mapIdx.mp member with ⟨position, inRange, rfl⟩
  exact isTrimmedLine_bullet kind position
    (isTrimmedLine_of_mem_survivors noTrimmedBreaks _ (List.getElem_mem inRange))

theorem applyList_eq (kind : ListKind) (items : List (List Char)) :
    applyList kind items =
      ['\n'].intercalate (((items.map trim).filter (· ≠ [])).mapIdx fun position text =>
        kind.line (position + 1) text) := by
  have survive : survivors items = (items.map trim).filter (· ≠ []) := by
    refine List.filter_congr fun text _ => ?_
    cases text <;> rfl
  rw [applyList, unlines, joinWithChar_eq_intercalate, survive]
  simp only [bullet_append]

end Rule

/-! ## The page of a list -/

structure TextElement.IsLine (element : TextElement) : Prop where
  isItem : element.name = "li"
  bracketFree : '<' ∉ element.text
  ampersandFree : '&' ∉ element.text
  noBreak : '\n' ∉ element.text
  afterFree : '<' ∉ element.after

namespace TextElement.IsLine

variable {element : TextElement} (isLine : element.IsLine)
include isLine

theorem isPlain : element.IsPlain where
  plain := by
    rw [isLine.isItem]
    exact plainName_li
  holds := by
    rw [isLine.isItem]
    decide
  textFree := isLine.bracketFree
  afterFree := isLine.afterFree

theorem formatItems_nodes (options : Options) :
    Node.formatItems options element.nodes = [element.text] := by
  have alone := formatItems_listItems options [element.text]
  rw [List.map_singleton, List.map_singleton,
    shownText_of_free options isLine.ampersandFree] at alone
  rw [nodes, isLine.isItem, ← List.singleton_append, formatItems_append, alone,
    formatItems_textNodes]
  rfl

end TextElement.IsLine

section Page

variable {options : Options} {items : List TextElement} (areLines : ∀ item ∈ items, item.IsLine)
include areLines

theorem formatItems_lines :
    Node.formatItems options (items.flatMap TextElement.nodes) = items.map TextElement.text := by
  induction items with
  | nil => rfl
  | cons item rest induction =>
      rw [List.forall_mem_cons] at areLines
      rw [List.flatMap_cons, formatItems_append, areLines.1.formatItems_nodes,
        induction areLines.2]
      rfl

theorem convertText_lines (kind : ListKind) {before : List Char} (free : '<' ∉ before) :
    convertText options (Node.startTag kind.name ++
        (before ++ items.flatMap TextElement.source ++ Node.endTag kind.name)) =
      Rule.applyList kind (items.map TextElement.text) := by
  have isPlain : ∀ item ∈ items, item.IsPlain := fun item member => (areLines item member).isPlain
  have noBreaks : ∀ text ∈ items.map TextElement.text, '\n' ∉ text := by
    rw [List.forall_mem_map]
    exact fun item member => (areLines item member).noBreak
  have formed := areWellFormed_list kind (TextElement.areWellFormed_textNodes_nodes free isPlain)
  have page : Node.writeAll
      [.element kind.name (textNodes before ++ items.flatMap TextElement.nodes)] =
      Node.startTag kind.name ++
        (before ++ items.flatMap TextElement.source ++ Node.endTag kind.name) := by
    rw [Node.writeAll, write_holding kind.holds_name,
      TextElement.writeAll_textNodes_nodes before isPlain, Node.writeAll, List.append_nil]
  have trimmed := trim_tags kind.name (before ++ items.flatMap TextElement.source)
  rw [← page] at trimmed ⊢
  rw [convertText_writeAll options formed trimmed, Node.formatAll, Node.formatAll, List.append_nil,
    format_list, formatItems_append, formatItems_textNodes, List.nil_append,
    formatItems_lines areLines, (Rule.isTidy_applyList kind noBreaks).tidy_eq_self]

end Page

/-- A list of single lines shows every item that is not blank on a line of its own, numbered in the
order of the page, and nothing of the text between the items. -/
theorem convert_lines (options : Options) (kind : ListKind) (before : List Char)
    (items : List TextElement) (free : '<' ∉ before) (areLines : ∀ item ∈ items, item.IsLine) :
    convert (String.ofList (Node.startTag kind.name ++
        (before ++ items.flatMap TextElement.source ++ Node.endTag kind.name))) options =
      String.ofList (['\n'].intercalate
        (((items.map fun item => trim item.text).filter (· ≠ [])).mapIdx fun position text =>
          kind.line (position + 1) text)) := by
  rw [convert, String.toList_ofList, convertText_lines areLines kind free, Rule.applyList_eq,
    List.map_map]
  rfl

theorem convert_lines_numbered :
    convert "<ol>x<li> a\t</li>stray &amp; <li> </li><li></li>\n<li>b > c</li>y</ol>" {} =
      "1. a\n2. b > c" := by
  refine Eq.trans (congrArg (convert · {}) ?_) ((convert_lines {} .ordered "x".toList
    [⟨"li", " a\t".toList, "stray &amp; ".toList⟩, ⟨"li", " ".toList, []⟩,
      ⟨"li", [], "\n".toList⟩, ⟨"li", "b > c".toList, "y".toList⟩] (by decide) ?_).trans ?_)
  · decide +kernel
  · intro item member
    simp only [List.mem_cons, List.not_mem_nil, or_false] at member
    rcases member with rfl | rfl | rfl | rfl <;>
      exact ⟨rfl, by decide, by decide, by decide, by decide⟩
  · decide +kernel

end ChatMarkup
