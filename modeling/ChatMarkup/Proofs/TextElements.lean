import ChatMarkup.Proofs.OmittedEndTags

/-!
Elements that hold a text and nothing else, one after the other, with other text between them.
-/

namespace ChatMarkup

/-- An element that holds a text, and the text behind it up to the next element. -/
structure TextElement where
  name : String
  text : List Char
  after : List Char

namespace TextElement

def source (element : TextElement) : List Char :=
  Node.startTag element.name ++ (element.text ++ (Node.endTag element.name ++ element.after))

def nodes (element : TextElement) : List Node :=
  item element.name element.text :: textNodes element.after

structure IsPlain (element : TextElement) : Prop where
  plain : PlainName element.name.toList
  holds : Markup.contentless.contains element.name = false
  textFree : '<' ∉ element.text
  afterFree : '<' ∉ element.after

section Plain

variable {elements : List TextElement}

theorem writeAll_nodes (isPlain : ∀ element ∈ elements, element.IsPlain) :
    Node.writeAll (elements.flatMap nodes) = elements.flatMap source := by
  induction elements with
  | nil => rfl
  | cons element rest induction =>
      rw [List.forall_mem_cons] at isPlain
      rw [List.flatMap_cons, List.flatMap_cons, writeAll_nodes_append, induction isPlain.2, nodes,
        Node.writeAll, write_item isPlain.1.holds, writeAll_textNodes, source]
      simp only [List.append_assoc]

/-- The text in front of the elements does not run into another text. -/
theorem head?_nodes_not_isText (elements : List TextElement) :
    (elements.flatMap nodes).head?.any Node.isText = false := by
  cases elements <;> rfl

theorem areWellFormed_nodes (isPlain : ∀ element ∈ elements, element.IsPlain) :
    Node.areWellFormed (elements.flatMap nodes) = true := by
  induction elements with
  | nil => rfl
  | cons element rest induction =>
      rw [List.forall_mem_cons] at isPlain
      have first := isWellFormed_item isPlain.1.plain isPlain.1.holds isPlain.1.textFree
      have later := areWellFormed_textNodes_append isPlain.1.afterFree (head?_nodes_not_isText rest)
        (induction isPlain.2)
      rw [List.flatMap_cons, nodes, List.cons_append, Node.areWellFormed, first, later]
      rfl

/-- The forest of a page of elements, with the text in front of the first one. -/
theorem areWellFormed_textNodes_nodes {before : List Char} (free : '<' ∉ before)
    (isPlain : ∀ element ∈ elements, element.IsPlain) :
    Node.areWellFormed (textNodes before ++ elements.flatMap nodes) = true :=
  areWellFormed_textNodes_append free (head?_nodes_not_isText elements)
    (areWellFormed_nodes isPlain)

theorem writeAll_textNodes_nodes (before : List Char)
    (isPlain : ∀ element ∈ elements, element.IsPlain) :
    Node.writeAll (textNodes before ++ elements.flatMap nodes) =
      before ++ elements.flatMap source := by
  rw [writeAll_nodes_append, writeAll_textNodes, writeAll_nodes isPlain]

end Plain

end TextElement

end ChatMarkup
