import ChatMarkup.Markup.Node

/-!
A forgiving reader of markup. It goes over the characters once, with a stack of the elements that
are still open, and never fails: a tag that it cannot make sense of is given up, and reading goes on
as text at the character where it was given up.

The reader has rules of its own that a page author may trip over. A slash may be part of a name, so
`<br/>` opens an element called `br/`. An end tag only closes the innermost open element, and only
if the names agree to the letter; any other end tag is ignored. Elements still open at the end of
the input stay.
-/

namespace ChatMarkup.Markup

/-! ## Characters and names -/

def isNameChar (char : Char) : Bool :=
  char.isAlphanum || char == '-' || char == '_' || char == ':' || char == '+' || char == '/'

def isGap (char : Char) : Bool := char == ' ' || char == '\n'

/-- Elements that never have content, so their start tag does not open anything. -/
def contentless : List String :=
  ["area", "base", "br", "col", "embed", "hr", "img", "input", "keygen", "link", "meta", "param",
    "source", "track", "wbr"]

/-! ## The state of a reader -/

/-- An element that waits for its end tag, with its children so far, the latest first. -/
structure OpenElement where
  name : String
  children : List Node

/-- The node of an open element, where `inner` are children that it has still to get, the latest
first. -/
def OpenElement.toNode (element : OpenElement) (inner : List Node) : Node :=
  .element element.name (inner ++ element.children).reverse

inductive CommentEnd where
  | far
  | dash
  | dashes

/-- Where the reader is. Texts and names that are being read are held with their last character
first. -/
inductive Phase where
  | between
  | text (content : List Char)
  | opened
  /-- After `</`. -/
  | endTag (name : List Char)
  /-- After `<!`. -/
  | declaration
  /-- After `<!-`. -/
  | declarationDash
  | comment (progress : CommentEnd)
  | declarationWord (word : List Char)
  /-- After the first word of a declaration, which was `doctype` or not. -/
  | declarationGap (isDoctype : Bool)
  | doctypeWord
  | doctypeGap
  | tagName (name : List Char)
  | attributes (name : String)
  | attributeName (name : String)
  | attributeGap (name : String)
  | valueGap (name : String)
  /-- In a value that ends with white space or with the tag. -/
  | value (name : String)
  | quotedValue (name : String) (quote : Char)
  /-- After the slash of a self-closing tag. -/
  | slash (name : String)

structure Reader where
  phase : Phase
  /-- The innermost open element first. -/
  stack : List OpenElement
  /-- The nodes outside of any open element, the latest first. -/
  top : List Node

namespace Reader

def start : Reader := ⟨.between, [], []⟩

/-! ## Building the tree -/

def add (node : Node) (reader : Reader) : Reader :=
  match reader.stack with
  | [] => { reader with top := node :: reader.top }
  | element :: outer =>
    { reader with stack := { element with children := node :: element.children } :: outer }

def close (reader : Reader) : Reader :=
  match reader.stack with
  | [] => reader
  | element :: outer =>
    add (element.toNode []) { reader with stack := outer }

def closeNamed (name : String) (reader : Reader) : Reader :=
  match reader.stack with
  | [] => reader
  | element :: _ => if element.name = name then reader.close else reader

def openElement (name : String) (selfClosing : Bool) (reader : Reader) : Reader :=
  if selfClosing || contentless.contains name then reader.add (.element name [])
  else { reader with stack := ⟨name, []⟩ :: reader.stack }

def goTo (phase : Phase) (reader : Reader) : Reader := { reader with phase }

/-! ## Reading a character -/

/-- A character between two nodes, also the one at which a tag was given up. -/
def stepBetween (char : Char) (reader : Reader) : Reader :=
  if char = '<' then reader.goTo .opened else reader.goTo (.text [char])

/-- A character where an attribute may begin. What cannot begin one is skipped. -/
def stepAttributes (name : String) (char : Char) (reader : Reader) : Reader :=
  if char = '>' then (reader.openElement name false).goTo .between
  else if char = '/' then reader.goTo (.slash name)
  else if isNameChar char then reader.goTo (.attributeName name)
  else reader.goTo (.attributes name)

/-- The character after the words of a doctype is skipped whatever it is. Skipping takes one byte,
and what is left of a longer character cannot be read as text. -/
def stepDoctypeEnd (char : Char) (reader : Reader) : Reader :=
  match char.utf8Size - 1 with
  | 0 => reader.goTo .between
  | spoilt => reader.goTo (.text (List.replicate spoilt '\uFFFD'))

def stepValue (name : String) (char : Char) (reader : Reader) : Reader :=
  if char = '>' then reader.stepAttributes name char
  else if isGap char then reader.goTo (.attributes name)
  else reader.goTo (.value name)

def stepDeclarationGap (isDoctype : Bool) (char : Char) (reader : Reader) : Reader :=
  if isGap char then reader.goTo (.declarationGap isDoctype)
  else if isDoctype && isNameChar char then reader.goTo .doctypeWord
  else reader.stepBetween char

def stepDeclarationWord (word : List Char) (char : Char) (reader : Reader) : Reader :=
  if isNameChar char then reader.goTo (.declarationWord (char :: word))
  else reader.stepDeclarationGap (lowercaseName (String.ofList word.reverse) == "doctype") char

def stepComment (progress : CommentEnd) (char : Char) (reader : Reader) : Reader :=
  match progress, char with
  | .dashes, '>' => (reader.add .comment).goTo .between
  | .dash, '-' => reader.goTo (.comment .dashes)
  | .far, '-' => reader.goTo (.comment .dash)
  | _, _ => reader.goTo (.comment .far)

def step (reader : Reader) (char : Char) : Reader :=
  match reader.phase with
  | .between => reader.stepBetween char
  | .text content =>
    if char = '<' then (reader.add (.text content.reverse)).goTo .opened
    else reader.goTo (.text (char :: content))
  | .opened =>
    if isGap char then reader
    else if char = '/' then reader.goTo (.endTag [])
    else if char = '!' then reader.goTo .declaration
    else if isNameChar char then reader.goTo (.tagName [char])
    else reader.stepBetween char
  | .endTag name =>
    if char = '>' then (reader.closeNamed (String.ofList name.reverse)).goTo .between
    else reader.goTo (.endTag (char :: name))
  | .declaration =>
    if char = '-' then reader.goTo .declarationDash
    else if isNameChar char then reader.goTo (.declarationWord [char])
    else reader.stepBetween char
  | .declarationDash =>
    if char = '-' then reader.goTo (.comment .dashes) else reader.stepDeclarationWord ['-'] char
  | .comment progress => reader.stepComment progress char
  | .declarationWord word => reader.stepDeclarationWord word char
  | .declarationGap isDoctype => reader.stepDeclarationGap isDoctype char
  | .doctypeWord =>
    if isNameChar char then reader
    else if isGap char then reader.goTo .doctypeGap
    else reader.stepDoctypeEnd char
  | .doctypeGap => if isGap char then reader else reader.stepDoctypeEnd char
  | .tagName name =>
    if isNameChar char then reader.goTo (.tagName (char :: name))
    else reader.stepAttributes (String.ofList name.reverse) char
  | .attributes name => reader.stepAttributes name char
  | .attributeName name =>
    if isNameChar char then reader
    else if char = '=' then reader.goTo (.valueGap name)
    else if isGap char then reader.goTo (.attributeGap name)
    else reader.stepAttributes name char
  | .attributeGap name =>
    if isGap char then reader
    else if char = '=' then reader.goTo (.valueGap name)
    else reader.stepAttributes name char
  | .valueGap name =>
    if isGap char then reader
    else if char = '"' || char = '\'' then reader.goTo (.quotedValue name char)
    else reader.stepValue name char
  | .value name => reader.stepValue name char
  | .quotedValue name quote =>
    if char = quote then reader.goTo (.attributes name) else reader
  | .slash name =>
    if char = '>' then (reader.openElement name true).goTo .between
    else reader.stepBetween char

/-! ## The end of the input -/

def finish (reader : Reader) : Reader :=
  match reader.phase with
  | .text content => reader.add (.text content.reverse)
  | .comment _ => reader.add .comment
  | _ => reader

def nodes (reader : Reader) : List Node :=
  (reader.stack.foldl (fun inner element => [element.toNode inner]) [] ++ reader.top).reverse

end Reader

def read (source : List Char) : List Node := (source.foldl Reader.step .start).finish.nodes

example : read "a<b c=\"<\">d<br>e".toList =
    [.text "a".toList,
      .element "b" [.text "d".toList, .element "br" [], .text "e".toList]] := by
  rfl

end ChatMarkup.Markup
