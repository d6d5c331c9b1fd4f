import ChatMarkup.Document.Token

/-!
The elements of a page's tree, and the classes of elements that its structure depends on. Two
elements are the same element only if their numbers agree: a page may have many with equal names and
attributes.
-/

namespace ChatMarkup.Document

inductive Vocabulary where
  | html
  | mathml
  | svg
deriving DecidableEq, Repr

structure Element where
  number : Nat
  vocabulary : Vocabulary
  name : String
  attributes : List Attribute
deriving DecidableEq, Repr

namespace Element

def isAnyOf (names : List String) (element : Element) : Bool :=
  element.vocabulary == .html && names.contains element.name

def isNamed (name : String) (element : Element) : Bool :=
  element.vocabulary == .html && element.name == name

def isHtml (element : Element) : Bool := element.vocabulary == .html

/-! ## Foreign content -/

def holdsText (element : Element) : Bool :=
  element.vocabulary == .mathml && ["mi", "mo", "mn", "ms", "mtext"].contains element.name

def holdsHtml (element : Element) : Bool :=
  element.vocabulary == .svg && ["foreignObject", "desc", "title"].contains element.name

def isAnnotation (element : Element) : Bool :=
  element.vocabulary == .mathml && element.name == "annotation-xml"

def isHtmlAnnotation (element : Element) : Bool :=
  element.isAnnotation && element.attributes.any fun item =>
    item.name == "encoding" &&
      ["text/html".toList, "application/xhtml+xml".toList].contains (item.value.map Char.toLower)

/-! ## Scopes -/

/-- The scope of an open element reaches up to the first element that bounds it. -/
abbrev Scope := Element → Bool

def bounds : Scope := fun element =>
  element.isAnyOf
      ["applet", "caption", "html", "table", "td", "th", "marquee", "object", "template"] ||
    element.holdsText || element.holdsHtml

def itemBounds : Scope := fun element => element.isAnyOf ["ol", "ul"] || bounds element

def buttonBounds : Scope := fun element => element.isNamed "button" || bounds element

def tableBounds : Scope := isAnyOf ["html", "table", "template"]

def selectBounds : Scope := fun element => !element.isAnyOf ["optgroup", "option"]

end Element

/-! ## Classes of names -/

def headings : List String := ["h1", "h2", "h3", "h4", "h5", "h6"]

def cells : List String := ["td", "th"]

def rowGroups : List String := ["tbody", "tfoot", "thead"]

/-- The elements between which text on a page must not stand. -/
def tableParts : List String := ["table", "tbody", "tfoot", "thead", "tr"]

/-- Elements whose end tags may be left out wherever another element ends. -/
def impliedEnds : List String :=
  ["dd", "dt", "li", "option", "optgroup", "p", "rb", "rp", "rt", "rtc"]

def allImpliedEnds : List String :=
  impliedEnds ++ ["caption", "colgroup", "tbody", "td", "tfoot", "th", "thead", "tr"]

/-- Elements that a misplaced end tag does not close. -/
def special : List String :=
  ["address", "applet", "area", "article", "aside", "base", "basefont", "bgsound", "blockquote",
    "body", "br", "button", "caption", "center", "col", "colgroup", "dd", "details", "dir", "div",
    "dl", "dt", "embed", "fieldset", "figcaption", "figure", "footer", "form", "frame", "frameset",
    "h1", "h2", "h3", "h4", "h5", "h6", "head", "header", "hgroup", "hr", "html", "iframe", "img",
    "input", "isindex", "li", "link", "listing", "main", "marquee", "menu", "meta", "nav",
    "noembed", "noframes", "noscript", "object", "ol", "p", "param", "plaintext", "pre", "script",
    "section", "select", "source", "style", "summary", "table", "tbody", "td", "template",
    "textarea", "tfoot", "th", "thead", "title", "tr", "track", "ul", "wbr", "xmp"]

/-- Special elements that do not keep an item open. -/
def transparentToItems : List String := ["address", "div", "p"]

def voidNames : List String :=
  ["area", "base", "basefont", "bgsound", "br", "col", "embed", "frame", "hr", "img", "input",
    "keygen", "link", "meta", "param", "source", "track", "wbr"]

def rawNames : List String :=
  ["style", "script", "xmp", "iframe", "noembed", "noframes", "plaintext", "noscript"]

end ChatMarkup.Document
