import ChatMarkup.Markup.Node
import ChatMarkup.Text.Lines

/-!
Self-closing tags, spelled out in the source. The reader of markup takes a slash for part of a name,
so `<br/>` has to become `<br>` and `<span/>` has to become `<span></span>` before it is read.
-/

namespace ChatMarkup.Source

open Text

def isVoidName (name : String) : Bool :=
  ["area", "base", "br", "col", "embed", "hr", "img", "input", "link", "meta", "param", "source",
    "track", "wbr"].contains (lowercaseName name)

def isTagNameChar (char : Char) : Bool := char.isAlphanum || char == ':' || char == '-'

def splitName? (stretch : List Char) : Option (List Char × List Char) :=
  match stretch with
  | [] => none
  | char :: _ => if char.isAlpha then some (stretch.span isTagNameChar) else none

/-- The attributes of a self-closing tag, given what follows its name, and what follows the tag.
They end with the slash before the first `>`, and white space separates them from the name. -/
def splitSlash? (afterName : List Char) : Option (List Char × List Char) :=
  match afterName.span (· != '>') with
  | (inside, _ :: after) =>
    let attributes := inside.dropLast
    if inside.getLast? == some '/' && attributes.head?.all isBlank then some (attributes, after)
    else none
  | _ => none

def openTag (name attributes : List Char) : List Char :=
  name ++ trimEnd attributes ++
    if isVoidName (String.ofList name) then ['>'] else "></".toList ++ name ++ ['>']

/-- What becomes of a stretch of source that begins with an opening bracket and has no other:
`stretch` is what follows the bracket. -/
def expandStretch (stretch : List Char) : List Char :=
  match splitName? stretch with
  | none => '<' :: stretch
  | some (name, afterName) =>
    match splitSlash? afterName with
    | none => '<' :: stretch
    | some (attributes, after) => '<' :: openTag name attributes ++ after

/-- Expands every self-closing tag. A tag holds no second opening bracket, so the stretches between
the brackets are expanded each on its own. -/
def expandSelfClosing (source : List Char) : List Char :=
  match splitAtChar '<' source with
  | [] => []
  | plain :: stretches => plain ++ stretches.flatMap expandStretch

example : expandSelfClosing "a<br />b<i x='/'/>c<b/ >".toList =
    "a<br>b<i x='/'></i>c<b/ >".toList := by
  decide +kernel

end ChatMarkup.Source
