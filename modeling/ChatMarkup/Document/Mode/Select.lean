import ChatMarkup.Document.Mode.Body

/-!
A list of choices. It holds options and groups of options; most other tags are ignored in it, and a
few end it.
-/

namespace ChatMarkup.Document.Select

open Builder

def closeCurrent (name : String) (builder : Builder) : Builder :=
  if builder.currentIs (Element.isNamed name) then builder.pop else builder

def closeSelection (builder : Builder) : Builder :=
  (builder.closeThrough (Element.isNamed "select")).resetMode

def isOpen (builder : Builder) : Bool :=
  builder.inScope Element.selectBounds (Element.isNamed "select")

def interrupt (outcome : Builder → Outcome) (builder : Builder) : Outcome :=
  if isOpen builder then outcome (closeSelection builder) else .done builder

def startTag (tag : Tag) : Builder → Outcome :=
  choose [
    (["html"], fun builder => .done (builder.mergeRoot tag)),
    (["option"], fun builder => .done ((closeCurrent "option" builder).insert tag)),
    (["optgroup"], fun builder =>
      .done ((closeCurrent "optgroup" (closeCurrent "option" builder)).insert tag)),
    (["hr"], fun builder =>
      .done ((closeCurrent "optgroup" (closeCurrent "option" builder)).insertVoid tag)),
    (["select"], interrupt .done),
    (["input", "keygen", "textarea"], interrupt .again),
    (["script", "template"], fun builder => .done (Head.insertMetadata tag builder))
  ] .done tag.name

/-- The end tag of a group also closes an option at its end. -/
def endGroup (builder : Builder) : Builder :=
  match builder.stack with
  | option :: group :: _ =>
    if option.isNamed "option" && group.isNamed "optgroup" then builder.pop.pop
    else closeCurrent "optgroup" builder
  | _ => closeCurrent "optgroup" builder

def endTag (name : String) : Builder → Outcome :=
  choose [
    (["optgroup"], fun builder => .done (endGroup builder)),
    (["option"], fun builder => .done (closeCurrent "option" builder)),
    (["select"], interrupt .done),
    (["template"], fun builder => .done (Head.endTemplate builder))
  ] .done name

def inSelect (token : Token) (builder : Builder) : Outcome :=
  match token with
  | .space content => .done (builder.insertText content)
  | .text content => .done (builder.insertText content)
  | .comment content => .done (builder.insertComment content)
  | .startTag tag => startTag tag builder
  | .endTag name => endTag name builder
  | .finish => Body.finish builder
  | _ => .done builder

def tableTags : List String :=
  ["caption", "table", "tbody", "tfoot", "thead", "tr", "td", "th"]

def inSelectInTable (token : Token) (builder : Builder) : Outcome :=
  match token with
  | .startTag tag =>
    if tableTags.contains tag.name then .again (closeSelection builder)
    else inSelect token builder
  | .endTag name =>
    if tableTags.contains name then
      if builder.inScope Element.tableBounds (Element.isNamed name) then
        .again (closeSelection builder)
      else .done builder
    else inSelect token builder
  | _ => inSelect token builder

end ChatMarkup.Document.Select
