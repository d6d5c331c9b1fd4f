import ChatMarkup.Proofs.BlankRuns
import ChatMarkup.Proofs.OmittedEndTags
import ChatMarkup.Proofs.StackWalk

/-!
Paragraphs inside of each other. A paragraph is its text with collapsed runs of white space and
without the white space at its edges, so that a paragraph around a paragraph adds nothing to it,
whatever white space stands between the two.
-/

namespace ChatMarkup

namespace Text

/-! ## Collapsing and trimming -/

theorem dropWhile_collapseBreaks (text : List Char) :
    (collapseBreaks text).dropWhile isBlank = collapseBreaks (text.dropWhile isBlank) := by
  induction text with
  | nil => rfl
  | cons char rest induction =>
      cases blank : isBlank char with
      | true =>
          rw [List.dropWhile_cons_of_pos blank, ← induction, collapseBreaks]
          split
          · rfl
          · rw [List.dropWhile_cons_of_pos blank]
      | false =>
          have inked : ¬isBlank char = true := Bool.eq_false_iff.mp blank
          have stays : collapseBreaks (char :: rest) = char :: collapseBreaks rest := by
            simp [collapseBreaks, blank]
          rw [List.dropWhile_cons_of_neg inked, stays, List.dropWhile_cons_of_neg inked]

/-- The last character has no break ahead of it. -/
theorem getLast?_collapseBreaks (text : List Char) :
    (collapseBreaks text).getLast? = text.getLast? := by
  induction text with
  | nil => rfl
  | cons char rest induction =>
      cases rest with
      | nil => simp [collapseBreaks, breakAhead]
      | cons next more =>
          rw [collapseBreaks]
          split
          · rw [induction, List.getLast?_cons_cons]
          · rw [List.getLast?_cons, induction, ← List.getLast?_cons]

theorem trimEnd_collapseBreaks (text : List Char) :
    trimEnd (collapseBreaks text) = collapseBreaks (trimEnd text) := by
  rcases @all_dropped_or_last_kept isBlank text with
    blank | ⟨front, last, tail, rfl, inked, blank⟩
  · have nothing : ∀ char ∈ collapseBreaks text, isBlank char = true := by
      rw [← ink_eq_nil_iff, ink_collapseBreaks, ink_eq_nil_iff]
      exact blank
    rw [trimEnd, trimEnd, trimEndWhere_eq_nil nothing, trimEndWhere_eq_nil blank]
    rfl
  · have tailBlank : ∀ char ∈ collapseBreaks tail, isBlank char = true := by
      rw [← ink_eq_nil_iff, ink_collapseBreaks, ink_eq_nil_iff]
      exact blank
    have ends : (collapseBreaks (front ++ [last])).getLast?.any isBlank = false := by
      rw [getLast?_collapseBreaks, List.getLast?_concat]
      exact inked
    rw [collapseBreaks_append_cons front inked, trimEnd, trimEnd,
      trimEndWhere_append_dropped _ tailBlank, trimEndWhere_eq_self ends,
      trimEndWhere_append_cons front inked, trimEndWhere_eq_nil blank]

/-- It makes no difference whether the edges or the runs come first. -/
theorem trim_collapseBreaks (text : List Char) :
    trim (collapseBreaks text) = collapseBreaks (trim text) := by
  rw [trim, trimWhere, dropWhile_collapseBreaks, ← trimEnd, trimEnd_collapseBreaks]
  rfl

/-- A block that is set as a paragraph already stays as it is. -/
theorem trim_collapseInner_block (text : List Char) :
    trim (collapseInner (trim (collapseInner text))) = trim (collapseInner text) := by
  rw [collapseInner_eq, collapseInner_eq, trim_collapseBreaks, trim_trim, trim_collapseBreaks,
    collapseBreaks_collapseBreaks]

theorem trim_collapseInner_blank_append {front : List Char}
    (blank : ∀ char ∈ front, isBlank char = true) (text : List Char) :
    trim (collapseInner (front ++ text)) = trim (collapseInner text) := by
  rw [collapseInner_eq, collapseInner_eq, trim_collapseBreaks, trim_collapseBreaks, trim,
    trimWhere_dropped_append blank, trim]

end Text

open Text

/-! ## The rule of a paragraph -/

namespace Rule

theorem apply_paragraph (inner : List Char) :
    apply inner .paragraph =
      if trim (collapseInner inner) = [] then []
      else trim (collapseInner inner) ++ ['\n', '\n'] := by
  rw [apply]
  split
  · rename_i empty
    rw [empty, if_pos rfl]
  · rename_i inked
    rw [if_neg inked]

theorem trim_collapseInner_apply_paragraph (inner : List Char) :
    trim (collapseInner (apply inner .paragraph)) = trim (collapseInner inner) := by
  have blank : ∀ char ∈ ['\n', '\n'], isBlank char = true := List.all_eq_true.mp (by decide)
  rw [apply_paragraph]
  split
  · rename_i empty
    rw [empty]
    rfl
  · rw [trim_collapseInner_append_blank _ blank, trim_collapseInner_block]

/-- White space around a paragraph does not show when a paragraph is made of it. -/
theorem apply_paragraph_around {before after : List Char}
    (beforeBlank : ∀ char ∈ before, isBlank char = true)
    (afterBlank : ∀ char ∈ after, isBlank char = true) (inner : List Char) :
    apply (before ++ apply inner .paragraph ++ after) .paragraph = apply inner .paragraph := by
  have same : trim (collapseInner (before ++ apply inner .paragraph ++ after)) =
      trim (collapseInner inner) := by
    rw [trim_collapseInner_append_blank _ afterBlank, trim_collapseInner_blank_append beforeBlank,
      trim_collapseInner_apply_paragraph]
  rw [apply_paragraph, same, ← apply_paragraph]

end Rule

/-! ## Paragraphs around each other -/

namespace Node

def paragraphNames : List String := ["p", "div", "section", "article"]

def IsParagraph (options : Options) : Node → Prop
  | .element name _ => elementName options name ∈ paragraphNames
  | _ => False

def IsSpace (options : Options) : Node → Prop
  | .text content => ∀ char ∈ shownText options content, isBlank char = true
  | _ => False

/-- `outer` is `inner`, or it is a paragraph whose children are a paragraph around `inner` and white
space. -/
inductive Wraps (options : Options) (inner : Node) : Node → Prop
  | itself : Wraps options inner inner
  | around {name : String} {before after : List Node} {block : Node}
    (isParagraph : (element name (before ++ block :: after)).IsParagraph options)
    (beforeSpace : ∀ node ∈ before, node.IsSpace options)
    (afterSpace : ∀ node ∈ after, node.IsSpace options)
    (wraps : Wraps options inner block) :
    Wraps options inner (.element name (before ++ block :: after))

section Formatting

variable {options : Options}

theorem isParagraph_of_name {name : String} (named : name ∈ paragraphNames)
    (children : List Node) : (element name children).IsParagraph options := by
  have lower : ∀ name ∈ paragraphNames, lowercaseName name = name := by decide
  rw [IsParagraph, elementName, lower name named, ite_self]
  exact named

theorem format_paragraph {name : String} {children : List Node}
    (isParagraph : (element name children).IsParagraph options) :
    (element name children).format options =
      Rule.apply (formatAll options children) .paragraph := by
  have rules : ∀ name ∈ paragraphNames, Rule.ofElement name = .paragraph := by decide
  exact format_element options (rules _ isParagraph) (fun _ _ => rfl) rfl children

/-- White space is shown as it is. -/
theorem isSpace_of_blank {content : List Char} (blank : ∀ char ∈ content, isBlank char = true) :
    (text content).IsSpace options := by
  have free : '&' ∉ content := fun member => absurd (blank _ member) (by decide)
  rw [IsSpace, shownText_of_free options free]
  exact blank

theorem isBlank_of_mem_formatAll {nodes : List Node}
    (space : ∀ node ∈ nodes, node.IsSpace options) :
    ∀ char ∈ formatAll options nodes, isBlank char = true := by
  induction nodes with
  | nil => exact List.forall_mem_nil _
  | cons node rest induction =>
      rw [List.forall_mem_cons] at space
      rw [formatAll, List.forall_mem_append]
      refine ⟨?_, induction space.2⟩
      cases node with
      | text content => exact space.1
      | comment => exact absurd space.1 id
      | element name children => exact absurd space.1 id

theorem exists_format_eq_apply {node : Node} (isParagraph : node.IsParagraph options) :
    ∃ inner, node.format options = Rule.apply inner .paragraph := by
  cases node with
  | element name children => exact ⟨_, format_paragraph isParagraph⟩
  | text content => exact absurd isParagraph id
  | comment => exact absurd isParagraph id

/-- By induction on the paragraphs around the innermost one. -/
theorem Wraps.format_eq {inner outer : Node} (isParagraph : inner.IsParagraph options)
    (wraps : Wraps options inner outer) : outer.format options = inner.format options := by
  induction wraps with
  | itself => rfl
  | around outerParagraph beforeSpace afterSpace wraps induction =>
      rcases exists_format_eq_apply isParagraph with ⟨text, shown⟩
      rw [format_paragraph outerParagraph, formatAll_append, formatAll, induction, shown,
        ← List.append_assoc]
      exact Rule.apply_paragraph_around (isBlank_of_mem_formatAll beforeSpace)
        (isBlank_of_mem_formatAll afterSpace) text

end Formatting

end Node

/-- A paragraph around a paragraph adds nothing to it, neither by the rule nor in a tree, however
many paragraphs are wrapped around the innermost one. -/
theorem paragraph_wrapped (options : Options) :
    (∀ before inner after : List Char, (∀ char ∈ before, isBlank char = true) →
      (∀ char ∈ after, isBlank char = true) →
      Rule.apply (before ++ Rule.apply inner .paragraph ++ after) .paragraph =
        Rule.apply inner .paragraph) ∧
      ∀ inner outer : Node, inner.IsParagraph options → Node.Wraps options inner outer →
        Walk.format options outer = Walk.format options inner := by
  constructor
  · intro before inner after beforeBlank afterBlank
    exact Rule.apply_paragraph_around beforeBlank afterBlank inner
  · intro inner outer isParagraph wraps
    rw [Walk.format_eq, Walk.format_eq, wraps.format_eq isParagraph]

theorem paragraph_wrapped_mixed :
    Rule.apply (" \t".toList ++ Rule.apply "\u00A0a \n\n b ".toList .paragraph ++ "\n ".toList)
        .paragraph = "a\n b\n\n".toList ∧
      Walk.format {} (.element "div" [.text "\n ".toList, .text "&nbsp;".toList,
        .element "section" [.element "p" [.text "x".toList, .comment], .text "\r\n".toList]]) =
        "x\n\n".toList := by
  have named {name : String} (children : List Node) (isName : name ∈ Node.paragraphNames) :
      (Node.element name children).IsParagraph {} := Node.isParagraph_of_name isName children
  have breakSpace : (Node.text "\n ".toList).IsSpace {} :=
    Node.isSpace_of_blank (List.all_eq_true.mp (by decide))
  have endSpace : (Node.text "\r\n".toList).IsSpace {} :=
    Node.isSpace_of_blank (List.all_eq_true.mp (by decide))
  have hardSpace : (Node.text "&nbsp;".toList).IsSpace {} :=
    List.all_eq_true.mp (by decide +kernel)
  have inner := @Node.Wraps.around {} (.element "p" [.text "x".toList, .comment]) "section" []
    [.text "\r\n".toList] _ (named _ (by decide)) (by simp) (by simpa using endSpace) .itself
  have outer := @Node.Wraps.around {} _ "div" [.text "\n ".toList, .text "&nbsp;".toList] [] _
    (named _ (by decide)) (by simpa using ⟨breakSpace, hardSpace⟩) (by simp) inner
  rcases paragraph_wrapped {} with ⟨byRule, inTree⟩
  constructor
  · exact (byRule _ _ _ (List.all_eq_true.mp (by decide))
      (List.all_eq_true.mp (by decide))).trans (by decide +kernel)
  · exact (inTree _ _ (named _ (by decide)) outer).trans (by decide +kernel)

end ChatMarkup
