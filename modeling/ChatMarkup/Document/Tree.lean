import ChatMarkup.Document.Element

/-!
The tree of a page while it is being built. The children of an element are held with the latest
first, because nearly all of the building takes place at the end of the page. Elements are found by
their numbers.
-/

namespace ChatMarkup.Document

inductive Tree where
  | element (element : Element) (children : List Tree)
  | text (content : List Char)
  | comment (content : List Char)
  | doctype (name : String)

namespace Tree

def hasNumber (number : Nat) : Tree → Bool
  | .element owner _ => owner.number == number
  | _ => false

/-! ## Changing an element -/

mutual

def change? (number : Nat) (change : Element → List Tree → Tree) : Tree → Option Tree
  | .element owner children =>
    if owner.number = number then some (change owner children)
    else (changeAny? number change children).map (.element owner)
  | _ => none

def changeAny? (number : Nat) (change : Element → List Tree → Tree) :
    List Tree → Option (List Tree)
  | [] => none
  | tree :: rest =>
    match change? number change tree with
    | some changed => some (changed :: rest)
    | none => (changeAny? number change rest).map (tree :: ·)

end

def appendTo (number : Nat) (child : Tree) (trees : List Tree) : List Tree :=
  (changeAny? number (fun owner children => .element owner (child :: children)) trees).getD
    trees

/-- The trees with those attributes added to the numbered element that it does not have. -/
def addAttributes (number : Nat) (attributes : List Attribute) (trees : List Tree) : List Tree :=
  let add (owner : Element) (children : List Tree) : Tree :=
    let missing := attributes.filter fun item => !owner.attributes.any (·.name == item.name)
    .element { owner with attributes := owner.attributes ++ missing } children
  (changeAny? number add trees).getD trees

/-! ## Moving an element -/

mutual

/-- The tree with `sibling` right before the numbered element, if that is inside of it. -/
def insertBefore? (number : Nat) (sibling : Tree) : Tree → Option Tree
  | .element owner children =>
    (insertBeforeAny? number sibling children).map (.element owner)
  | _ => none

def insertBeforeAny? (number : Nat) (sibling : Tree) : List Tree → Option (List Tree)
  | [] => none
  | tree :: rest =>
    if tree.hasNumber number then some (tree :: sibling :: rest)
    else
      match insertBefore? number sibling tree with
      | some changed => some (changed :: rest)
      | none => (insertBeforeAny? number sibling rest).map (tree :: ·)

end

structure Detached (α : Type) where
  tree : Tree
  left : α

def Detached.map {α β : Type} (transform : α → β) (detached : Detached α) : Detached β :=
  ⟨detached.tree, transform detached.left⟩

mutual

def detach? (number : Nat) : Tree → Option (Detached Tree)
  | .element owner children =>
    (detachAny? number children).map fun detached => detached.map (.element owner)
  | _ => none

def detachAny? (number : Nat) : List Tree → Option (Detached (List Tree))
  | [] => none
  | tree :: rest =>
    if tree.hasNumber number then some ⟨tree, rest⟩
    else
      match detach? number tree with
      | some detached => some (detached.map (· :: rest))
      | none => (detachAny? number rest).map fun detached => detached.map (tree :: ·)

end

/-- Gives all children of the numbered element to `parent`, which becomes its only child. -/
def wrapChildren (number : Nat) (parent : Element) (trees : List Tree) : List Tree :=
  let wrap (owner : Element) (children : List Tree) : Tree :=
    .element owner [.element parent children]
  (changeAny? number wrap trees).getD trees

/-! ## Writing -/

/-- A character of a text or of a value as it is written: what could be read as markup becomes a
reference. -/
def escape (inValue : Bool) (char : Char) : List Char :=
  if char = '&' then "&amp;".toList
  else if char = '\u00A0' then "&nbsp;".toList
  else if inValue then if char = '"' then "&quot;".toList else [char]
  else if char = '<' then "&lt;".toList
  else if char = '>' then "&gt;".toList
  else [char]

def writeAttribute (item : Attribute) : List Char :=
  ' ' :: item.name.toList ++ '=' :: '"' :: item.value.flatMap (escape true) ++ ['"']

def writeStartTag (element : Element) : List Char :=
  '<' :: element.name.toList ++ element.attributes.flatMap writeAttribute ++ ['>']

def writeEndTag (element : Element) : List Char := '<' :: '/' :: element.name.toList ++ ['>']

mutual

/-- The tree as markup, in front of `after`; `raw` says that its text is written as it is. An
element that never has content gets no end tag, and nothing is written of a template's content. -/
def write (raw : Bool) (after : List Char) : Tree → List Char
  | .text content => (if raw then content else content.flatMap (escape false)) ++ after
  | .comment content => "<!--".toList ++ content ++ "-->".toList ++ after
  | .doctype name => "<!DOCTYPE ".toList ++ name.toList ++ '>' :: after
  | .element owner children =>
    writeStartTag owner ++
      if owner.isAnyOf voidNames then after
      else if owner.isNamed "template" then writeEndTag owner ++ after
      else writeAll (owner.isAnyOf rawNames) (writeEndTag owner ++ after) children

def writeAll (raw : Bool) (after : List Char) : List Tree → List Char
  | [] => after
  | tree :: rest => writeAll raw (write raw after tree) rest

end

example : writeAll false []
    [.element ⟨0, .html, "p", [⟨"a", "\"".toList⟩]⟩ [.text "<".toList], .doctype "html"] =
      "<!DOCTYPE html><p a=\"&quot;\">&lt;</p>".toList := by
  decide +kernel

end Tree

end ChatMarkup.Document
