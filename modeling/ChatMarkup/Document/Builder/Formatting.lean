import ChatMarkup.Document.Builder

/-!
Formatting elements. Their tags may overlap with those of other elements, as in `<b>a<p>b</b>c`: an
element that was closed too early is opened again, and one that was closed too late is cut in two.
-/

namespace ChatMarkup.Document.Builder

/-! ## The list of formatting elements -/

def FormattingEntry.hasNumber (number : Nat) : FormattingEntry → Bool
  | .element element => element.number == number
  | .marker => false

def addMarker (builder : Builder) : Builder :=
  { builder with formatting := .marker :: builder.formatting }

def beforeMarker : List FormattingEntry → List FormattingEntry
  | [] => []
  | .marker :: rest => rest
  | .element _ :: rest => beforeMarker rest

def clearToMarker (builder : Builder) : Builder :=
  { builder with formatting := beforeMarker builder.formatting }

def sinceMarker : List FormattingEntry → List Element
  | [] => []
  | .marker :: _ => []
  | .element element :: rest => element :: sinceMarker rest

def forget (number : Nat) (builder : Builder) : Builder :=
  { builder with formatting := builder.formatting.eraseP (FormattingEntry.hasNumber number) }

/-! ## Opening again -/

/-- The entries that have to be opened again, the latest first, and the others. -/
def splitClosed (stack : List Element) :
    List FormattingEntry → List Element × List FormattingEntry
  | [] => ([], [])
  | .marker :: rest => ([], .marker :: rest)
  | .element element :: rest =>
    if stack.any (·.number == element.number) then ([], .element element :: rest)
    else
      let (closed, others) := splitClosed stack rest
      (element :: closed, others)

def openFormatting (name : String) (attributes : List Attribute) (builder : Builder) : Builder :=
  let element := builder.fresh .html name attributes
  let opened := builder.openIn .html name attributes
  { opened with formatting := .element element :: opened.formatting }

def reopen (builder : Builder) (element : Element) : Builder :=
  builder.openFormatting element.name element.attributes

/-- Opens the formatting elements again that were closed by something other than their end tag. -/
def reconstruct (builder : Builder) : Builder :=
  let (closed, others) := splitClosed builder.stack builder.formatting
  closed.reverse.foldl reopen { builder with formatting := others }

/-! ## A new formatting element -/

def alike (tag : Tag) (element : Element) : Bool :=
  element.name == tag.name && element.attributes.isPerm tag.attributes

def maxAlike : Nat := 3

/-- Opens a formatting element. Of too many that are alike, the earliest is forgotten. -/
def insertFormatting (tag : Tag) (builder : Builder) : Builder :=
  let earlier := (sinceMarker builder.formatting).filter (alike tag)
  let trimmed :=
    match earlier.getLast? with
    | some earliest =>
      if maxAlike ≤ earlier.length then builder.forget earliest.number else builder
    | none => builder
  trimmed.openFormatting tag.name tag.attributes

/-! ## An end tag that is not at its place -/

/-- The open elements outside of the element that an end tag closes, or `none` if a special element
keeps it from closing anything. -/
def outsideUnlessSpecial (name : String) : List Element → Option (List Element)
  | [] => none
  | element :: outer =>
    if element.isNamed name then some outer
    else if element.isAnyOf special then none
    else outsideUnlessSpecial name outer

def closeOther (name : String) (builder : Builder) : Builder :=
  match outsideUnlessSpecial name builder.stack with
  | some stack => { builder with stack }
  | none => builder

/-! ## Cutting an element in two -/

/-- The chain of elements between a formatting element and the block that ends it, while the
elements of the chain are replaced by copies. -/
structure Chain where
  builder : Builder
  /-- The block inside of the copies so far. -/
  tree : Tree
  /-- The copies, the outermost first. -/
  copies : List Element
  innermost : Option Element
  seen : Nat

def maxCopies : Nat := 3

/-- Takes in the next element of the chain. One that is no formatting element, or that is too far
away, is closed. -/
def Chain.step (chain : Chain) (element : Element) : Chain :=
  let isEntry := chain.builder.formatting.any (FormattingEntry.hasNumber element.number)
  if maxCopies ≤ chain.seen then
    { chain with builder := chain.builder.forget element.number, seen := chain.seen + 1 }
  else if !isEntry then { chain with seen := chain.seen + 1 }
  else
    let copy := chain.builder.fresh .html element.name element.attributes
    let exchange (entry : FormattingEntry) : FormattingEntry :=
      if FormattingEntry.hasNumber element.number entry then .element copy else entry
    { builder :=
        { chain.builder with
            formatting := chain.builder.formatting.map exchange
            nextNumber := chain.builder.nextNumber + 1 }
      tree := .element copy [chain.tree]
      copies := copy :: chain.copies
      innermost := chain.innermost.or (some copy)
      seen := chain.seen + 1 }

def enterAfter (number : Nat) (added : FormattingEntry) :
    List FormattingEntry → List FormattingEntry
  | [] => []
  | entry :: rest =>
    if FormattingEntry.hasNumber number entry then added :: entry :: rest
    else entry :: enterAfter number added rest

/-- Enters the second half of a formatting element: right after the innermost copy if there is one,
else in the stead of the first half. -/
def enterHalf (old half : Element) (innermost : Option Element)
    (entries : List FormattingEntry) : List FormattingEntry :=
  match innermost with
  | some copy =>
    (enterAfter copy.number (.element half) entries).eraseP
      (FormattingEntry.hasNumber old.number)
  | none =>
    entries.map fun entry =>
      if FormattingEntry.hasNumber old.number entry then .element half else entry

/-- Cuts a formatting element in two at a block inside of it. `later` was opened after the block,
`between` before it and after the formatting element, and `outer` before that. The block leaves the
first half, with copies of what is around it, and the second half goes into the block. -/
def cut (old block : Element) (later between outer : List Element) (builder : Builder) : Builder :=
  let detached : Tree.Detached (List Tree) :=
    (Tree.detachAny? block.number builder.trees).getD ⟨.element block [], builder.trees⟩
  let chain :=
    between.foldl Chain.step
      ⟨{ builder with trees := detached.left }, detached.tree, [], none, 0⟩
  let around := chain.builder
  let target := (outer.head?).bind fun ancestor => around.placeIn ancestor
  let placed := around.insertAt target chain.tree
  let half := placed.fresh .html old.name old.attributes
  { placed with
      trees := Tree.wrapChildren block.number half placed.trees
      formatting := enterHalf old half chain.innermost placed.formatting
      stack := later ++ half :: block :: (chain.copies.reverse ++ outer)
      nextNumber := placed.nextNumber + 1 }

def splitAtLast? (test : Element → Bool) :
    List Element → Option (List Element × Element × List Element)
  | [] => none
  | element :: rest =>
    match splitAtLast? test rest with
    | some (before, found, after) => some (element :: before, found, after)
    | none => if test element then some ([], element, rest) else none

inductive Round where
  | finished (builder : Builder)
  | next (builder : Builder)

def closeFormattingRound (name : String) (builder : Builder) : Round :=
  match (sinceMarker builder.formatting).find? (·.name == name) with
  | none => .finished (builder.closeOther name)
  | some element =>
    let isElement (other : Element) : Bool := other.number == element.number
    if !builder.stack.any isElement then .finished (builder.forget element.number)
    else if !builder.inScope Element.bounds isElement then .finished builder
    else
      let inner := builder.stack.takeWhile (!isElement ·)
      let outer := outside isElement builder.stack
      match splitAtLast? (Element.isAnyOf special) inner with
      | none => .finished ({ builder with stack := outer }.forget element.number)
      | some (later, block, between) => .next (builder.cut element block later between outer)

def closeFormattingRounds (name : String) : Nat → Builder → Builder
  | 0, builder => builder
  | rounds + 1, builder =>
    match builder.closeFormattingRound name with
    | .finished builder => builder
    | .next builder => closeFormattingRounds name rounds builder

def maxRounds : Nat := 8

def closeFormatting (name : String) (builder : Builder) : Builder :=
  let isEntry := builder.currentIs fun element =>
    builder.formatting.any (FormattingEntry.hasNumber element.number)
  if builder.currentIs (Element.isNamed name) && !isEntry then builder.pop
  else closeFormattingRounds name maxRounds builder

def closeEarlierLink (builder : Builder) : Builder :=
  match (sinceMarker builder.formatting).find? (·.name == "a") with
  | none => builder
  | some link =>
    ((builder.closeFormatting "a").forget link.number).removeFromStack link.number

end ChatMarkup.Document.Builder
