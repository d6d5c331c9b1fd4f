import ChatMarkup.Document.Mode.Body

/-!
Tables. A cell stands in a row, a row in a group of rows and a group in a table: each is supplied
where its tag is missing, and a tag of an outer part closes the inner ones. What has no place
between the parts is put in front of the table.
-/

namespace ChatMarkup.Document.Table

open Builder

def inTableScope (names : List String) (builder : Builder) : Bool :=
  builder.inScope Element.tableBounds (Element.isAnyOf names)

def backToTable (builder : Builder) : Builder :=
  builder.closeUntil (Element.isAnyOf ["table", "template", "html"])

def backToGroup (builder : Builder) : Builder :=
  builder.closeUntil (Element.isAnyOf ["tbody", "tfoot", "thead", "template", "html"])

def backToRow (builder : Builder) : Builder :=
  builder.closeUntil (Element.isAnyOf ["tr", "template", "html"])

/-- Treats a token as in the body, and puts what comes of it in front of the table. -/
def foster (token : Token) (builder : Builder) : Outcome :=
  match Body.inBody token { builder with fostering := true } with
  | .done fostered => .done { fostered with fostering := false }
  | .again fostered => .again { fostered with fostering := false }

/-! ## Text -/

/-- Text between the parts of a table is held back until it is known whether it is white space. -/
def holdText (token : Token) (builder : Builder) : Outcome :=
  if builder.currentIs (Element.isAnyOf tableParts) then
    .again { builder with returnMode := builder.mode, mode := .inTableText }
  else foster token builder

def placeSpace (builder : Builder) (token : Token) : Builder :=
  match token with
  | .space content => builder.insertText content
  | .text content => builder.insertText content
  | _ => builder

def placeText (builder : Builder) (token : Token) : Builder :=
  match foster token builder with
  | .done placed => placed
  | .again placed => placed

def isText : Token → Bool
  | .text _ => true
  | _ => false

def placeTableText (builder : Builder) : Builder :=
  let emptied := { builder with tableText := [] }
  builder.tableText.reverse.foldl
    (if builder.tableText.any isText then placeText else placeSpace) emptied

def inTableText (token : Token) (builder : Builder) : Outcome :=
  match token with
  | .null => .done builder
  | .space _ => .done { builder with tableText := token :: builder.tableText }
  | .text _ => .done { builder with tableText := token :: builder.tableText }
  | _ =>
    let placed := placeTableText builder
    .again (placed.goTo placed.returnMode)

/-! ## In the table -/

def closeTable (builder : Builder) : Builder :=
  (builder.closeThrough (Element.isNamed "table")).resetMode

/-- A form in a table gets no content. -/
def startForm (tag : Tag) (builder : Builder) : Builder :=
  if builder.form.isSome || builder.hasOpen "template" then builder
  else { builder.insertVoid tag with form := some builder.nextNumber }

def startTag (tag : Tag) : Builder → Outcome :=
  choose [
    (["caption"], fun builder =>
      .done (((backToTable builder).addMarker.insert tag).goTo .inCaption)),
    (["colgroup"], fun builder => .done (((backToTable builder).insert tag).goTo .inColumnGroup)),
    (["col"], fun builder =>
      .again (((backToTable builder).insertImplied "colgroup").goTo .inColumnGroup)),
    (rowGroups, fun builder => .done (((backToTable builder).insert tag).goTo .inTableBody)),
    ("tr" :: cells, fun builder =>
      .again (((backToTable builder).insertImplied "tbody").goTo .inTableBody)),
    (["table"], fun builder =>
      if inTableScope ["table"] builder then .again (closeTable builder) else .done builder),
    (["style", "script", "template"], fun builder => .done (Head.insertMetadata tag builder)),
    (["input"], fun builder =>
      if Body.isHiddenField tag then .done (builder.insertVoid tag)
      else foster (.startTag tag) builder),
    (["form"], fun builder => .done (startForm tag builder))
  ] (foster (.startTag tag)) tag.name

def ignoredEnds : List String :=
  ["body", "caption", "col", "colgroup", "html", "tbody", "td", "tfoot", "th", "thead", "tr"]

def endTag (name : String) : Builder → Outcome :=
  choose [
    (["table"], fun builder =>
      .done (if inTableScope ["table"] builder then closeTable builder else builder)),
    (ignoredEnds, .done),
    (["template"], fun builder => .done (Head.endTemplate builder))
  ] (foster (.endTag name)) name

def inTable (token : Token) (builder : Builder) : Outcome :=
  match token with
  | .null => holdText token builder
  | .space _ => holdText token builder
  | .text _ => holdText token builder
  | .comment content => .done (builder.insertComment content)
  | .startTag tag => startTag tag builder
  | .endTag name => endTag name builder
  | .finish => Body.finish builder
  | _ => .done builder

/-! ## Captions and columns -/

def leaveCaption (outcome : Builder → Outcome) (builder : Builder) : Outcome :=
  if inTableScope ["caption"] builder then
    outcome
      ((builder.closeImplied.closeThrough (Element.isNamed "caption")).clearToMarker.goTo .inTable)
  else .done builder

def inCaption (token : Token) (builder : Builder) : Outcome :=
  match token with
  | .startTag tag =>
    choose [
      (["caption", "col", "colgroup", "tbody", "td", "tfoot", "th", "thead", "tr"],
        leaveCaption .again)
    ] (Body.inBody token) tag.name builder
  | .endTag name =>
    choose [
      (["caption"], leaveCaption .done),
      (["table"], leaveCaption .again),
      (["body", "col", "colgroup", "html", "tbody", "td", "tfoot", "th", "thead", "tr"], .done)
    ] (Body.inBody token) name builder
  | _ => Body.inBody token builder

def leaveColumnGroup (outcome : Builder → Outcome) (builder : Builder) : Outcome :=
  if builder.currentIs (Element.isNamed "colgroup") then outcome (builder.pop.goTo .inTable)
  else .done builder

def inColumnGroup (token : Token) (builder : Builder) : Outcome :=
  match token with
  | .space content => .done (builder.insertText content)
  | .comment content => .done (builder.insertComment content)
  | .startTag tag =>
    choose [
      (["html"], fun builder => .done (builder.mergeRoot tag)),
      (["col"], fun builder => .done (builder.insertVoid tag)),
      (["template"], fun builder => .done (Head.insertMetadata tag builder))
    ] (leaveColumnGroup .again) tag.name builder
  | .endTag name =>
    choose [
      (["colgroup"], leaveColumnGroup .done),
      (["col"], .done),
      (["template"], fun builder => .done (Head.endTemplate builder))
    ] (leaveColumnGroup .again) name builder
  | .finish => Body.finish builder
  | _ => leaveColumnGroup .again builder

/-! ## Rows -/

def leaveGroup (outcome : Builder → Outcome) (builder : Builder) : Outcome :=
  outcome ((backToGroup builder).pop.goTo .inTable)

def interruptGroup (builder : Builder) : Outcome :=
  if inTableScope ["table", "tbody", "tfoot"] builder then leaveGroup .again builder
  else .done builder

def inTableBody (token : Token) (builder : Builder) : Outcome :=
  match token with
  | .startTag tag =>
    choose [
      (["tr"], fun builder => .done (((backToGroup builder).insert tag).goTo .inRow)),
      (cells, fun builder => .again (((backToGroup builder).insertImplied "tr").goTo .inRow)),
      ("caption" :: "col" :: "colgroup" :: rowGroups, interruptGroup)
    ] (inTable token) tag.name builder
  | .endTag name =>
    choose [
      (rowGroups, fun builder =>
        if inTableScope [name] builder then leaveGroup .done builder else .done builder),
      (["table"], interruptGroup),
      (["body", "caption", "col", "colgroup", "html", "td", "th", "tr"], .done)
    ] (inTable token) name builder
  | _ => inTable token builder

def leaveRow (outcome : Builder → Outcome) (builder : Builder) : Outcome :=
  if inTableScope ["tr"] builder then outcome ((backToRow builder).pop.goTo .inTableBody)
  else .done builder

def inRow (token : Token) (builder : Builder) : Outcome :=
  match token with
  | .startTag tag =>
    choose [
      (cells, fun builder => .done (((backToRow builder).insert tag).goTo .inCell).addMarker),
      ("caption" :: "col" :: "colgroup" :: "tr" :: rowGroups, leaveRow .again)
    ] (inTable token) tag.name builder
  | .endTag name =>
    choose [
      (["tr"], leaveRow .done),
      (["table"], leaveRow .again),
      (rowGroups, fun builder =>
        if inTableScope [name] builder then leaveRow .again builder else .done builder),
      (["body", "caption", "col", "colgroup", "html", "td", "th"], .done)
    ] (inTable token) name builder
  | _ => inTable token builder

/-! ## Cells -/

def closeCell (builder : Builder) : Builder :=
  (builder.closeImplied.closeThrough (Element.isAnyOf cells)).clearToMarker.goTo .inRow

def endCell (name : String) (builder : Builder) : Builder :=
  if inTableScope [name] builder then
    (builder.closeImplied.closeThrough (Element.isNamed name)).clearToMarker.goTo .inRow
  else builder

def inCell (token : Token) (builder : Builder) : Outcome :=
  match token with
  | .startTag tag =>
    choose [
      (["caption", "col", "colgroup", "tbody", "td", "tfoot", "th", "thead", "tr"], fun builder =>
        if inTableScope cells builder then .again (closeCell builder) else .done builder)
    ] (Body.inBody token) tag.name builder
  | .endTag name =>
    choose [
      (cells, fun builder => .done (endCell name builder)),
      (["body", "caption", "col", "colgroup", "html"], .done),
      (tableParts, fun builder =>
        if inTableScope [name] builder then .again (closeCell builder) else .done builder)
    ] (Body.inBody token) name builder
  | _ => Body.inBody token builder

end ChatMarkup.Document.Table
