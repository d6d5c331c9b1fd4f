import ChatMarkup.Document.Builder.Formatting

/-!
The beginning of a page: everything before its body. Tags that a page must have are supplied where
they are missing, so that each of these modes leads to the next one.
-/

namespace ChatMarkup.Document.Head

/-! ## Elements of the head, wherever they stand -/

def metadata : List String :=
  ["base", "basefont", "bgsound", "link", "meta", "noframes", "script", "style", "template",
    "title"]

def insertTemplate (tag : Tag) (builder : Builder) : Builder :=
  { (builder.addMarker.forbidFrameset.insert tag).goTo .inTemplate with
    templateModes := .inTemplate :: builder.templateModes }

def insertMetadata (tag : Tag) : Builder → Builder :=
  choose [
    (["base", "basefont", "bgsound", "link", "meta"], Builder.insertVoid tag),
    (["title"], Builder.insertRaw .references tag),
    (["noframes", "style", "noscript"], Builder.insertRaw .raw tag),
    (["script"], Builder.insertRaw (.script .none) tag)
  ] (insertTemplate tag) tag.name

def leaveTemplate (builder : Builder) : Builder :=
  let cleared := builder.clearToMarker
  { cleared with templateModes := cleared.templateModes.tail }.resetMode

def endTemplate (builder : Builder) : Builder :=
  if builder.hasOpen "template" then
    let implied :=
      { builder with stack := builder.stack.dropWhile (Element.isAnyOf allImpliedEnds) }
    leaveTemplate (implied.closeThrough (Element.isNamed "template"))
  else builder

/-! ## Before the head -/

/-- End tags before which missing elements are supplied; other end tags are ignored. -/
def outerEnds : List String := ["head", "body", "html", "br"]

def initial (token : Token) (builder : Builder) : Outcome :=
  match token with
  | .space _ => .done builder
  | .comment content => .done (builder.insertOuterComment content)
  | _ => .again { builder with tableInParagraph := true, mode := .beforeHtml }

def beforeHtml (token : Token) (builder : Builder) : Outcome :=
  let supply := Outcome.again ((builder.insertRoot []).goTo .beforeHead)
  match token with
  | .space _ => .done builder
  | .comment content => .done (builder.insertOuterComment content)
  | .startTag tag =>
    if tag.name = "html" then .done ((builder.insertRoot tag.attributes).goTo .beforeHead)
    else supply
  | .endTag name => if outerEnds.contains name then supply else .done builder
  | _ => supply

def insertHead (name : String) (attributes : List Attribute) (builder : Builder) : Builder :=
  let head := builder.fresh .html name attributes
  { (builder.openIn .html name attributes).goTo .inHead with headElement := some head }

def beforeHead (token : Token) (builder : Builder) : Outcome :=
  let supply := Outcome.again (insertHead "head" [] builder)
  match token with
  | .space _ => .done builder
  | .comment content => .done (builder.insertComment content)
  | .startTag tag =>
    if tag.name = "html" then .done (builder.mergeRoot tag)
    else if tag.name = "head" then .done (insertHead tag.name tag.attributes builder)
    else supply
  | .endTag name => if outerEnds.contains name then supply else .done builder
  | _ => supply

/-! ## In the head and after it -/

def inHead (token : Token) (builder : Builder) : Outcome :=
  let leave := builder.pop.goTo .afterHead
  match token with
  | .space content => .done (builder.insertText content)
  | .comment content => .done (builder.insertComment content)
  | .startTag tag =>
    if tag.name = "html" then .done (builder.mergeRoot tag)
    else if metadata.contains tag.name || tag.name = "noscript" then
      .done (insertMetadata tag builder)
    else if tag.name = "head" then .done builder
    else .again leave
  | .endTag name =>
    if name = "head" then .done leave
    else if name = "template" then .done (endTemplate builder)
    else if outerEnds.contains name then .again leave
    else .done builder
  | _ => .again leave

/-- An element of the head that comes after it is put into it. -/
def insertLateMetadata (tag : Tag) (builder : Builder) : Builder :=
  match builder.headElement with
  | none => insertMetadata tag builder
  | some head =>
    (insertMetadata tag { builder with stack := head :: builder.stack }).removeFromStack
      head.number

def afterHead (token : Token) (builder : Builder) : Outcome :=
  let supply := Outcome.again ((builder.insertImplied "body").goTo .inBody)
  match token with
  | .space content => .done (builder.insertText content)
  | .comment content => .done (builder.insertComment content)
  | .startTag tag =>
    if tag.name = "html" then .done (builder.mergeRoot tag)
    else if tag.name = "body" then .done ((builder.forbidFrameset.insert tag).goTo .inBody)
    else if tag.name = "frameset" then .done ((builder.insert tag).goTo .inFrameset)
    else if metadata.contains tag.name then .done (insertLateMetadata tag builder)
    else if tag.name = "head" then .done builder
    else supply
  | .endTag name =>
    if name = "template" then .done (endTemplate builder)
    else if name = "head" then .done builder
    else if outerEnds.contains name then supply
    else .done builder
  | _ => supply

end ChatMarkup.Document.Head
