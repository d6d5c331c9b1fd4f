import ChatMarkup.Proofs.CompletedItems
import ChatMarkup.Proofs.EscapeRoundTrip

/-!
The markup of a completed page. It is the markup of a well-formed forest, so the forgiving reader
takes it as it is meant.
-/

namespace ChatMarkup

open Document

/-! ## Writing trees -/

namespace Document.Tree

def source (raw : Bool) (text : List Char) : List Char :=
  if raw then text else text.flatMap (escape false)

theorem source_append (raw : Bool) (left right : List Char) :
    source raw (left ++ right) = source raw left ++ source raw right := by
  cases raw with
  | false => exact List.flatMap_append
  | true => rfl

theorem writeAll_texts (raw : Bool) (after : List Char) (contents : List (List Char)) :
    writeAll raw after (contents.map .text) = source raw contents.reverse.flatten ++ after := by
  induction contents generalizing after with
  | nil => cases raw <;> rfl
  | cons content rest induction =>
      have last : write raw after (.text content) = source raw [content].flatten ++ after := by
        rw [List.flatten_singleton]
        rfl
      rw [List.map_cons, writeAll, induction, last, List.reverse_cons, List.flatten_append,
        source_append, List.append_assoc]

theorem writeAll_stretches (after text : List Char) :
    writeAll false after (stretches text) = text.flatMap (escape false) ++ after := by
  have written := writeAll_texts false after ((Token.ofText text).map Token.content).reverse
  rw [List.reverse_reverse, ← List.flatMap_def, Token.flatMap_content_ofText, List.map_reverse,
    List.map_map] at written
  exact written

/-- Elements with the name have content and an end tag, and their text is written with
references. -/
def holdsMarkup (name : String) : Bool :=
  !voidNames.contains name && name != "template" && !rawNames.contains name

theorem write_element_eq (raw : Bool) (after : List Char) (owner : Element) (nodes : List Tree) :
    write raw after (.element owner nodes) =
      writeStartTag owner ++
        if owner.isAnyOf voidNames then after
        else if owner.isNamed "template" then writeEndTag owner ++ after
        else writeAll (owner.isAnyOf rawNames) (writeEndTag owner ++ after) nodes :=
  rfl

/-- An element that has an end tag and its content in front of that. -/
theorem write_closed {name : String} (notVoid : voidNames.contains name = false)
    (notTemplate : name ≠ "template") (number : Nat) (after : List Char) (nodes : List Tree) :
    write false after (.element ⟨number, .html, name, []⟩ nodes) =
      Node.startTag name ++
        writeAll (rawNames.contains name) (Node.endTag name ++ after) nodes := by
  have template : (Element.mk number .html name []).isNamed "template" = false := by
    have different : (name == "template") = false := beq_eq_false_iff_ne.mpr notTemplate
    exact different
  have void : (Element.mk number .html name []).isAnyOf voidNames = false := notVoid
  have raw : (Element.mk number .html name []).isAnyOf rawNames = rawNames.contains name := rfl
  have starts : writeStartTag ⟨number, .html, name, []⟩ = Node.startTag name := by
    simp [writeStartTag, Node.startTag]
  have ends : writeEndTag ⟨number, .html, name, []⟩ = Node.endTag name := by
    simp [writeEndTag, Node.endTag]
  rw [write_element_eq, void, template, raw, starts, ends]
  rfl

theorem write_element {name : String} (holds : holdsMarkup name = true) (number : Nat)
    (after : List Char) (nodes : List Tree) :
    write false after (.element ⟨number, .html, name, []⟩ nodes) =
      Node.startTag name ++ writeAll false (Node.endTag name ++ after) nodes := by
  simp only [holdsMarkup, Bool.and_eq_true, Bool.not_eq_true', bne_iff_ne] at holds
  rcases holds with ⟨⟨notVoid, notTemplate⟩, notRaw⟩
  rw [write_closed notVoid notTemplate, notRaw]

end Document.Tree

/-! ## Writing items -/

theorem writeAll_textNodes (text : List Char) : Node.writeAll (textNodes text) = text := by
  cases text with
  | nil => rfl
  | cons char rest => exact List.append_nil _

theorem write_holding {name : String} (holds : Markup.contentless.contains name = false)
    (children : List Node) :
    (Node.element name children).write =
      Node.startTag name ++ (Node.writeAll children ++ Node.endTag name) := by
  rw [Node.write, holds]
  rfl

theorem write_item {name : String} (holds : Markup.contentless.contains name = false)
    (text : List Char) :
    (item name text).write = Node.startTag name ++ (text ++ Node.endTag name) := by
  rw [item, write_holding holds, writeAll_textNodes]

theorem writeAll_nodes_append (left right : List Node) :
    Node.writeAll (left ++ right) = Node.writeAll left ++ Node.writeAll right := by
  induction left with
  | nil => rfl
  | cons node rest induction =>
      rw [List.cons_append, Node.writeAll, Node.writeAll, induction, List.append_assoc]

def writtenItems (name : String) (texts : List (List Char)) : List Node :=
  (texts.map fun text => text.flatMap (Tree.escape false)).map (item name)

theorem writtenItems_append (name : String) (left right : List (List Char)) :
    writtenItems name (left ++ right) = writtenItems name left ++ writtenItems name right := by
  rw [writtenItems, List.map_append, List.map_append]
  rfl

theorem writeAll_items {site : Site} (holdsMarkup : Tree.holdsMarkup site.name = true)
    (holds : Markup.contentless.contains site.name = false) (after : List Char)
    (texts : List (List Char)) :
    Tree.writeAll false after (site.items texts) =
      Node.writeAll (writtenItems site.name texts.reverse) ++ after := by
  induction texts generalizing after with
  | nil => rfl
  | cons text earlier induction =>
      have last : Node.writeAll (writtenItems site.name [text]) =
          Node.startTag site.name ++ (text.flatMap (Tree.escape false) ++ Node.endTag site.name) :=
        (List.append_nil _).trans (write_item holds _)
      rw [Site.items, Tree.writeAll, Site.owner, Tree.write_element holdsMarkup,
        Tree.writeAll_stretches, induction, List.reverse_cons, writtenItems_append,
        writeAll_nodes_append, last]
      simp only [List.append_assoc]

/-! ## Well-formed items -/

section WellFormed

open Node

/-- Elements with the name close none of their children. -/
def ClosesNothing (name : String) : Prop :=
  ∀ child, Markup.closesParent (lowercaseName name) child = false

theorem ClosesNothing.any_misnested {name : String} (nothing : ClosesNothing name)
    (nodes : List Node) : nodes.any (Markup.misnestedIn name) = false := by
  rw [List.any_eq_false]
  intro node member
  cases node with
  | element child children => exact Bool.eq_false_iff.mp (nothing (lowercaseName child))
  | _ => exact Bool.false_ne_true

theorem isWellFormed_element {name : String} (plain : PlainName name.toList)
    (holds : Markup.contentless.contains name = false) {children : List Node}
    (apart : children.any (Markup.misnestedIn name) = false)
    (wellFormed : areWellFormed children = true) :
    (element name children).isWellFormed = true := by
  have shown : Source.hiddenNames.contains name.toList = false := by
    simpa using plain.shown
  rw [isWellFormed, plain.isName, shown, holds, apart, wellFormed]
  rfl

theorem areWellFormed_textNodes_append {text : List Char} (free : '<' ∉ text) {rest : List Node}
    (apart : rest.head?.any isText = false) (wellFormed : areWellFormed rest = true) :
    areWellFormed (textNodes text ++ rest) = true := by
  cases text with
  | nil => exact wellFormed
  | cons char tail =>
      have formed : (Node.text (char :: tail)).isWellFormed = true := by
        simpa [isWellFormed] using free
      change areWellFormed (.text (char :: tail) :: rest) = true
      rw [areWellFormed, formed, apart, wellFormed, Bool.and_false]
      rfl

theorem areWellFormed_textNodes {text : List Char} (free : '<' ∉ text) :
    areWellFormed (textNodes text) = true := by
  have alone := areWellFormed_textNodes_append free rfl (rfl : areWellFormed [] = true)
  rwa [List.append_nil] at alone

theorem isWellFormed_item {name : String} (plain : PlainName name.toList)
    (holds : Markup.contentless.contains name = false) {text : List Char} (free : '<' ∉ text) :
    (item name text).isWellFormed = true := by
  refine isWellFormed_element plain holds ?_ (areWellFormed_textNodes free)
  cases text <;> rfl

/-- Elements may stand side by side. -/
theorem areWellFormed_of_forall {nodes : List Node}
    (each : ∀ node ∈ nodes, node.isWellFormed = true ∧ node.isText = false) :
    areWellFormed nodes = true := by
  induction nodes with
  | nil => rfl
  | cons node rest induction =>
      rw [List.forall_mem_cons] at each
      rw [areWellFormed, each.1.1, each.1.2, induction each.2]
      rfl

theorem areWellFormed_singleton {node : Node} (wellFormed : node.isWellFormed = true) :
    areWellFormed [node] = true := by
  simp [areWellFormed, wellFormed]

theorem areWellFormed_items {name : String} (plain : PlainName name.toList)
    (holds : Markup.contentless.contains name = false) {texts : List (List Char)}
    (free : ∀ text ∈ texts, '<' ∉ text) : areWellFormed (texts.map (item name)) = true := by
  apply areWellFormed_of_forall
  intro node member
  rcases List.mem_map.mp member with ⟨text, inTexts, rfl⟩
  exact ⟨isWellFormed_item plain holds (free text inTexts), rfl⟩

theorem bracket_notMem_escape (text : List Char) : '<' ∉ text.flatMap (Tree.escape false) := by
  intro member
  rcases List.mem_flatMap.mp member with ⟨char, -, inEscape⟩
  simp only [Tree.escape, Bool.false_eq_true, if_false] at inEscape
  split at inEscape
  · exact absurd inEscape (by decide)
  split at inEscape
  · exact absurd inEscape (by decide)
  split at inEscape
  · exact absurd inEscape (by decide)
  · rename_i different
    split at inEscape
    · exact absurd inEscape (by decide)
    · exact different (List.mem_singleton.mp inEscape).symm

theorem areWellFormed_writtenItems {name : String} (plain : PlainName name.toList)
    (holds : Markup.contentless.contains name = false) (texts : List (List Char)) :
    areWellFormed (writtenItems name texts) = true := by
  apply areWellFormed_items plain holds
  intro written member
  rcases List.mem_map.mp member with ⟨text, -, rfl⟩
  exact bracket_notMem_escape text

end WellFormed

/-! ## Lists -/

namespace ListKind

theorem holds_name (kind : ListKind) : Markup.contentless.contains kind.name = false := by
  cases kind <;> decide

theorem closesNothing_name (kind : ListKind) : ClosesNothing kind.name := by
  cases kind <;> exact fun _ => rfl

theorem li_ne_name (kind : ListKind) : "li" ≠ kind.name := by
  cases kind <;> decide

end ListKind

/-- A list of well-formed items is well-formed. -/
theorem areWellFormed_list (kind : ListKind) {items : List Node}
    (wellFormed : Node.areWellFormed items = true) :
    Node.areWellFormed [.element kind.name items] = true :=
  areWellFormed_singleton (isWellFormed_element (plainName_list kind) kind.holds_name
    (kind.closesNothing_name.any_misnested items) wellFormed)

/-! ## The completed page -/

def pageNode (nodes : List Node) : Node :=
  .element "html" [.element "head" [], .element "body" nodes]

theorem plainName_html : PlainName "html".toList := ⟨by decide, by decide⟩

theorem plainName_head : PlainName "head".toList := ⟨by decide, by decide⟩

theorem plainName_body : PlainName "body".toList := ⟨by decide, by decide⟩

theorem closesNothing_html : ClosesNothing "html" := fun _ => rfl

theorem closesNothing_body : ClosesNothing "body" := fun _ => rfl

theorem areWellFormed_pageNode {nodes : List Node} (wellFormed : Node.areWellFormed nodes = true) :
    Node.areWellFormed [pageNode nodes] = true := by
  have bodyFormed := isWellFormed_element plainName_body (by decide)
    (closesNothing_body.any_misnested nodes) wellFormed
  have headFormed := isWellFormed_element plainName_head (by decide) rfl
    (rfl : Node.areWellFormed [] = true)
  apply areWellFormed_singleton
  refine isWellFormed_element plainName_html (by decide) (closesNothing_html.any_misnested _) ?_
  apply areWellFormed_of_forall
  simp [headFormed, bodyFormed, Node.isText]

theorem writeAll_bodyTrees {trees : List Tree} {nodes : List Node}
    (written : ∀ after, Tree.writeAll false after trees = Node.writeAll nodes ++ after) :
    Tree.writeAll false [] (bodyTrees trees) = Node.writeAll [pageNode nodes] := by
  have html : Tree.holdsMarkup "html" = true := by decide
  have head : Tree.holdsMarkup "head" = true := by decide
  have body : Tree.holdsMarkup "body" = true := by decide
  have page : Node.writeAll [pageNode nodes] = Node.startTag "html" ++ (Node.startTag "head" ++
      (Node.endTag "head" ++ (Node.startTag "body" ++ (Node.writeAll nodes ++
        (Node.endTag "body" ++ Node.endTag "html"))))) := by
    have htmlHolds : Markup.contentless.contains "html" = false := by decide
    have headHolds : Markup.contentless.contains "head" = false := by decide
    have bodyHolds : Markup.contentless.contains "body" = false := by decide
    simp only [pageNode, Node.writeAll, write_holding htmlHolds, write_holding headHolds,
      write_holding bodyHolds, List.append_assoc, List.append_nil, List.nil_append]
  rw [page]
  simp only [bodyTrees, root, Document.body, Tree.writeAll, Tree.write_element html,
    Tree.write_element head, Tree.write_element body, written, List.append_nil]

/-! ## Completing the page of items -/

section Completed

variable {texts : List (List Char)}

theorem completed_openParagraphs (plainTexts : ∀ text ∈ texts, PlainText text)
    (some : texts ≠ []) :
    completed (openItems "p" texts) =
      Node.writeAll [pageNode (writtenItems "p" (Cursor.start.keptItems "p" texts))] := by
  rw [completed, read_openParagraphs plainTexts some]
  apply writeAll_bodyTrees
  intro after
  have written := @writeAll_items paragraphs (by decide) (by decide) after
    (Cursor.start.keptItems "p" texts).reverse
  rwa [List.reverse_reverse] at written

theorem completed_openList (kind : ListKind) (plainTexts : ∀ text ∈ texts, PlainText text)
    (some : texts ≠ []) :
    completed (openList kind.name "li" texts) =
      Node.writeAll [pageNode [.element kind.name (writtenItems "li"
        ((Cursor.start.pass (Node.startTag kind.name)).keptItems "li" texts))]] := by
  have holdsMarkup : Tree.holdsMarkup kind.name = true := by cases kind <;> decide
  rw [completed, read_openList kind plainTexts some]
  apply writeAll_bodyTrees
  intro after
  have written := @writeAll_items (listItems kind) (by decide : Tree.holdsMarkup "li" = true)
    (by decide : Markup.contentless.contains "li" = false) (Node.endTag kind.name ++ after)
    ((Cursor.start.pass (Node.startTag kind.name)).keptItems "li" texts).reverse
  rw [List.reverse_reverse] at written
  rw [Tree.writeAll, Tree.writeAll, Tree.write_element holdsMarkup, written, Node.writeAll,
    write_holding kind.holds_name]
  simp only [Node.writeAll, List.append_assoc, List.append_nil]
  rfl

end Completed

end ChatMarkup
