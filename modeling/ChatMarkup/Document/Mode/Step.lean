import ChatMarkup.Document.Mode.Frameset
import ChatMarkup.Document.Mode.Select
import ChatMarkup.Document.Mode.Table
import ChatMarkup.Document.Mode.Template

/-!
What a token does to a page. The mode decides, unless the token comes inside of a foreign element:
drawings and formulas are built by rules of their own, until a tag of HTML ends them.
-/

namespace ChatMarkup.Document.Builder

def stepMode (token : Token) (builder : Builder) : Outcome :=
  match builder.mode with
  | .initial => Head.initial token builder
  | .beforeHtml => Head.beforeHtml token builder
  | .beforeHead => Head.beforeHead token builder
  | .inHead => Head.inHead token builder
  | .afterHead => Head.afterHead token builder
  | .inBody => Body.inBody token builder
  | .text => Body.inText token builder
  | .inTable => Table.inTable token builder
  | .inTableText => Table.inTableText token builder
  | .inCaption => Table.inCaption token builder
  | .inColumnGroup => Table.inColumnGroup token builder
  | .inTableBody => Table.inTableBody token builder
  | .inRow => Table.inRow token builder
  | .inCell => Table.inCell token builder
  | .inSelect => Select.inSelect token builder
  | .inSelectInTable => Select.inSelectInTable token builder
  | .inTemplate => Template.inTemplate token builder
  | .afterBody => Body.afterBody token builder
  | .inFrameset => Frameset.inFrameset token builder
  | .afterFrameset => Frameset.afterFrameset token builder
  | .afterAfterBody => Body.afterAfterBody token builder
  | .afterAfterFrameset => Frameset.afterAfterFrameset token builder

/-! ## Foreign content -/

/-- A foreign element takes the token, and not the HTML around it or inside of it. -/
def takesToken (element : Element) : Token → Bool
  | .finish => false
  | .space _ | .text _ | .null =>
    !(element.isHtml || element.holdsText || element.holdsHtml || element.isHtmlAnnotation)
  | .startTag tag =>
    !(element.isHtml || element.holdsHtml || element.isHtmlAnnotation ||
      (element.holdsText && !(["mglyph", "malignmark"].contains tag.name)) ||
      (element.isAnnotation && tag.name == "svg"))
  | _ => !element.isHtml

def breakouts : List String :=
  ["b", "big", "blockquote", "body", "br", "center", "code", "dd", "div", "dl", "dt", "em",
    "embed", "h1", "h2", "h3", "h4", "h5", "h6", "head", "hr", "i", "img", "li", "listing", "menu",
    "meta", "nobr", "ol", "p", "pre", "ruby", "s", "small", "span", "strong", "strike", "sub",
    "sup", "table", "tt", "u", "ul", "var"]

def breaksOut (tag : Tag) : Bool :=
  breakouts.contains tag.name ||
    (tag.name == "font" &&
      tag.attributes.any fun item => ["color", "face", "size"].contains item.name)

def breakOut (token : Token) (builder : Builder) : Outcome :=
  (builder.closeUntil fun element =>
    element.isHtml || element.holdsText || element.holdsHtml).stepMode token

def startInside (tag : Tag) (builder : Builder) : Builder :=
  match builder.stack with
  | [] => builder
  | element :: _ =>
    let name :=
      if element.vocabulary = .svg then Body.withCapitals Body.svgNames tag.name else tag.name
    Body.insertForeign element.vocabulary name tag builder

/-- What the end tag of a foreign element leads to, going outwards through the open elements: it
closes the first whose name agrees but for case. The root is never closed, and an element of HTML
hands the tag over to the mode. -/
inductive ForeignEnd where
  | close (outer : List Element)
  | ignore
  | hand
deriving DecidableEq

def findForeignEnd (name : String) (isFirst : Bool) : List Element → ForeignEnd
  | [] => .ignore
  | [_] => .ignore
  | element :: outer =>
    if !isFirst && element.isHtml then .hand
    else if element.name.toList.map Char.toLower == name.toList then .close outer
    else findForeignEnd name false outer

def stepForeign (token : Token) (builder : Builder) : Outcome :=
  match token with
  | .null => .done (builder.insertText ['\uFFFD'])
  | .space content => .done (builder.insertText content)
  | .text content => .done (builder.forbidFrameset.insertText content)
  | .comment content => .done (builder.insertComment content)
  | .startTag tag =>
    if breaksOut tag then builder.breakOut token else .done (builder.startInside tag)
  | .endTag name =>
    if ["br", "p"].contains name then builder.breakOut token
    else
      match findForeignEnd name true builder.stack with
      | .close stack => .done { builder with stack }
      | .ignore => .done builder
      | .hand => builder.stepMode token
  | _ => .done builder

def step (token : Token) (builder : Builder) : Outcome :=
  if builder.currentIs fun element => takesToken element token then builder.stepForeign token
  else builder.stepMode token

/-! ## Taking a token -/

/-- Takes a token until it has been used. Each time it is looked at again either an open element has
been closed or the mode has moved on, so the bound in `take` is never met. -/
def takeWithin : Nat → Token → Builder → Builder
  | 0, _, builder => builder
  | bound + 1, token, builder =>
    match builder.step token with
    | .done used => used
    | .again next => takeWithin bound token next

def bound (builder : Builder) : Nat := 4 * builder.stack.length + 16

def takeDoctype (tableInParagraph : Bool) (name : String) (builder : Builder) : Builder :=
  match builder.mode with
  | .initial =>
    { builder with
        trees := .doctype name :: builder.trees
        tableInParagraph
        mode := .beforeHtml }
  | _ => builder

def withoutBreak : Token → Option Token
  | .space ['\n'] => none
  | .space ('\n' :: rest) => some (.space rest)
  | token => some token

end ChatMarkup.Document.Builder
