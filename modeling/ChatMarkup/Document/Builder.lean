import ChatMarkup.Document.Tree
import ChatMarkup.Document.Lexer.State

/-!
The state of a page that is being built, and what every rule of building is made of: opening and
closing elements, asking what is open, and finding the place for a new node.
-/

namespace ChatMarkup.Document

inductive Mode where
  | initial
  | beforeHtml
  | beforeHead
  | inHead
  | afterHead
  | inBody
  | text
  | inTable
  | inTableText
  | inCaption
  | inColumnGroup
  | inTableBody
  | inRow
  | inCell
  | inSelect
  | inSelectInTable
  | inTemplate
  | afterBody
  | inFrameset
  | afterFrameset
  | afterAfterBody
  | afterAfterFrameset
deriving DecidableEq, Repr

/-- An entry in the list of formatting elements, which are opened again after they were closed by
something other than their end tag. A marker keeps the entries before it from being used. -/
inductive FormattingEntry where
  | marker
  | element (element : Element)
deriving DecidableEq, Repr

/-- Lists of open elements and of formatting entries, and lists of nodes, begin with the latest. -/
structure Builder where
  mode : Mode
  /-- The mode to go back to after raw text or after text in a table. -/
  returnMode : Mode
  templateModes : List Mode
  trees : List Tree
  stack : List Element
  formatting : List FormattingEntry
  headElement : Option Element
  form : Option Nat
  /-- A set of frames may still take the place of the body. -/
  framesetOk : Bool
  /-- A table does not end a paragraph, as on pages of old. -/
  tableInParagraph : Bool
  /-- Nodes that have no place in a table are put in front of it. -/
  fostering : Bool
  /-- Text in a table that has not been placed yet, the latest first. -/
  tableText : List Token
  /-- A line break that comes next is no part of the text. -/
  skipsBreak : Bool
  /-- How the text after the latest start tag is to be read. -/
  content : Content
  /-- Reading pauses after the latest tag, to run a script. What comes next begins as a page
  does. -/
  pauses : Bool
  nextNumber : Nat

/-- What becomes of a token: it has been used, or it has to be looked at again, usually in another
mode. -/
inductive Outcome where
  | done (builder : Builder)
  | again (builder : Builder)

def choose {α : Type} (cases : List (List String × α)) (otherwise : α) (name : String) : α :=
  match cases.find? fun entry => entry.1.contains name with
  | some entry => entry.2
  | none => otherwise

namespace Builder

def start : Builder where
  mode := .initial
  returnMode := .initial
  templateModes := []
  trees := []
  stack := []
  formatting := []
  headElement := none
  form := none
  framesetOk := true
  tableInParagraph := false
  fostering := false
  tableText := []
  skipsBreak := false
  content := .markup
  pauses := false
  nextNumber := 0

def goTo (mode : Mode) (builder : Builder) : Builder := { builder with mode }

def forbidFrameset (builder : Builder) : Builder := { builder with framesetOk := false }

/-! ## Open elements -/

def pop (builder : Builder) : Builder := { builder with stack := builder.stack.tail }

def currentIs (test : Element → Bool) (builder : Builder) : Bool := builder.stack.head?.any test

def hasOpen (name : String) (builder : Builder) : Bool :=
  builder.stack.any (Element.isNamed name)

/-- An element that passes the test is open, and none that bounds its scope was opened since. -/
def reaches (bounds : Element.Scope) (test : Element → Bool) : List Element → Bool
  | [] => false
  | element :: outer => test element || (!bounds element && reaches bounds test outer)

def inScope (bounds : Element.Scope) (test : Element → Bool) (builder : Builder) : Bool :=
  reaches bounds test builder.stack

def outside (test : Element → Bool) : List Element → List Element
  | [] => []
  | element :: outer => if test element then outer else outside test outer

def closeThrough (test : Element → Bool) (builder : Builder) : Builder :=
  { builder with stack := outside test builder.stack }

/-- Closes elements up to the latest that passes the test, which stays open. -/
def closeUntil (test : Element → Bool) (builder : Builder) : Builder :=
  { builder with stack := builder.stack.dropWhile (!test ·) }

def closeImpliedExcept (name : String) (builder : Builder) : Builder :=
  { builder with
      stack := builder.stack.dropWhile fun element =>
        element.isAnyOf impliedEnds && element.name != name }

def closeImplied (builder : Builder) : Builder :=
  { builder with stack := builder.stack.dropWhile (Element.isAnyOf impliedEnds) }

def closeNamed (name : String) (builder : Builder) : Builder :=
  (builder.closeImpliedExcept name).closeThrough (Element.isNamed name)

def closeParagraph (builder : Builder) : Builder :=
  if builder.inScope Element.buttonBounds (Element.isNamed "p") then builder.closeNamed "p"
  else builder

def removeFromStack (number : Nat) (builder : Builder) : Builder :=
  { builder with stack := builder.stack.eraseP (·.number == number) }

/-! ## Places -/

inductive Place where
  | inside (number : Nat)
  /-- In front of a numbered table, or at the end of the element opened before it. -/
  | before (table : Nat) (opened : Option Nat)

/-- The place of a node that cannot stand in the table around it. -/
def fosterPlace : List Element → Option Place
  | [] => none
  | [element] => some (.inside element.number)
  | element :: opened :: outer =>
    if element.isNamed "template" then some (.inside element.number)
    else if element.isNamed "table" then some (.before element.number (some opened.number))
    else fosterPlace (opened :: outer)

def placeIn (target : Element) (builder : Builder) : Option Place :=
  if builder.fostering && target.isAnyOf tableParts then fosterPlace builder.stack
  else some (.inside target.number)

def place (builder : Builder) : Option Place :=
  builder.stack.head?.bind fun element => builder.placeIn element

def insertAt (place : Option Place) (tree : Tree) (builder : Builder) : Builder :=
  match place with
  | none => builder
  | some (.inside number) => { builder with trees := Tree.appendTo number tree builder.trees }
  | some (.before table opened) =>
    match Tree.insertBeforeAny? table tree builder.trees, opened with
    | some trees, _ => { builder with trees }
    | none, some number => { builder with trees := Tree.appendTo number tree builder.trees }
    | none, none => builder

/-! ## New nodes -/

def insertTree (tree : Tree) (builder : Builder) : Builder := builder.insertAt builder.place tree

def insertText (content : List Char) (builder : Builder) : Builder :=
  builder.insertTree (.text content)

def insertComment (content : List Char) (builder : Builder) : Builder :=
  builder.insertTree (.comment content)

def insertOuterComment (content : List Char) (builder : Builder) : Builder :=
  { builder with trees := .comment content :: builder.trees }

def fresh (vocabulary : Vocabulary) (name : String) (attributes : List Attribute)
    (builder : Builder) : Element :=
  ⟨builder.nextNumber, vocabulary, name, attributes⟩

def openIn (vocabulary : Vocabulary) (name : String) (attributes : List Attribute)
    (builder : Builder) : Builder :=
  let element := builder.fresh vocabulary name attributes
  let inserted := builder.insertTree (.element element [])
  { inserted with stack := element :: inserted.stack, nextNumber := builder.nextNumber + 1 }

def insert (tag : Tag) (builder : Builder) : Builder :=
  builder.openIn .html tag.name tag.attributes

def insertImplied (name : String) (builder : Builder) : Builder := builder.openIn .html name []

def insertVoid (tag : Tag) (builder : Builder) : Builder := (builder.insert tag).pop

def insertRoot (attributes : List Attribute) (builder : Builder) : Builder :=
  let root := builder.fresh .html "html" attributes
  { builder with
      trees := .element root [] :: builder.trees
      stack := [root]
      nextNumber := builder.nextNumber + 1 }

def insertRaw (content : Content) (tag : Tag) (builder : Builder) : Builder :=
  { builder.insert tag with returnMode := builder.mode, mode := .text, content }

/-! ## Elements that are there already -/

/-- The attributes of a second root tag are given to the root, as far as it does not have them. -/
def mergeRoot (tag : Tag) (builder : Builder) : Builder :=
  match builder.stack.getLast? with
  | some root =>
    if builder.hasOpen "template" then builder
    else { builder with trees := Tree.addAttributes root.number tag.attributes builder.trees }
  | none => builder

def body? (builder : Builder) : Option Element :=
  match builder.stack.reverse with
  | _ :: body :: _ => if body.isNamed "body" then some body else none
  | _ => none

/-! ## The mode of the open elements -/

def selectionMode (outer : List Element) : Mode :=
  match outer.find? (Element.isAnyOf ["template", "table"]) with
  | some element => if element.name == "table" then .inSelectInTable else .inSelect
  | none => .inSelect

/-- The mode that goes with an open element; `outer` was open before it. -/
def modeOf (builder : Builder) (element : Element) (outer : List Element) : Option Mode :=
  match element.name with
  | "select" => some (selectionMode outer)
  | "td" | "th" => if outer.isEmpty then none else some .inCell
  | "tr" => some .inRow
  | "tbody" | "thead" | "tfoot" => some .inTableBody
  | "caption" => some .inCaption
  | "colgroup" => some .inColumnGroup
  | "table" => some .inTable
  | "template" => builder.templateModes.head?
  | "head" => if outer.isEmpty then none else some .inHead
  | "body" => some .inBody
  | "frameset" => some .inFrameset
  | "html" => some (if builder.headElement.isNone then .beforeHead else .afterHead)
  | _ => none

def modeFor (builder : Builder) : List Element → Mode
  | [] => .inBody
  | element :: outer =>
    match if element.isHtml then builder.modeOf element outer else none with
    | some mode => mode
    | none => builder.modeFor outer

def resetMode (builder : Builder) : Builder := builder.goTo (builder.modeFor builder.stack)

end Builder

end ChatMarkup.Document
