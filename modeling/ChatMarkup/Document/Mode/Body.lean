import ChatMarkup.Document.Mode.Head

/-!
The body of a page. Most of its rules close what a start tag or an end tag implies to be closed, and
open again the formatting elements that this closes.
-/

namespace ChatMarkup.Document.Body

open Builder

/-! ## Foreign elements -/

def withCapitals (names : List String) (name : String) : String :=
  (names.find? fun spelled => spelled.toList.map Char.toLower == name.toList).getD name

def svgNames : List String :=
  ["altGlyph", "altGlyphDef", "altGlyphItem", "animateColor", "animateMotion", "animateTransform",
    "clipPath", "feBlend", "feColorMatrix", "feComponentTransfer", "feComposite",
    "feConvolveMatrix", "feDiffuseLighting", "feDisplacementMap", "feDistantLight", "feDropShadow",
    "feFlood", "feFuncA", "feFuncB", "feFuncG", "feFuncR", "feGaussianBlur", "feImage", "feMerge",
    "feMergeNode", "feMorphology", "feOffset", "fePointLight", "feSpecularLighting", "feSpotLight",
    "feTile", "feTurbulence", "foreignObject", "glyphRef", "linearGradient", "radialGradient",
    "textPath"]

def svgAttributeNames : List String :=
  ["attributeName", "attributeType", "baseFrequency", "baseProfile", "calcMode", "clipPathUnits",
    "diffuseConstant", "edgeMode", "filterUnits", "glyphRef", "gradientTransform", "gradientUnits",
    "kernelMatrix", "kernelUnitLength", "keyPoints", "keySplines", "keyTimes", "lengthAdjust",
    "limitingConeAngle", "markerHeight", "markerUnits", "markerWidth", "maskContentUnits",
    "maskUnits", "numOctaves", "pathLength", "patternContentUnits", "patternTransform",
    "patternUnits", "pointsAtX", "pointsAtY", "pointsAtZ", "preserveAlpha", "preserveAspectRatio",
    "primitiveUnits", "refX", "refY", "repeatCount", "repeatDur", "requiredExtensions",
    "requiredFeatures", "specularConstant", "specularExponent", "spreadMethod", "startOffset",
    "stdDeviation", "stitchTiles", "surfaceScale", "systemLanguage", "tableValues", "targetX",
    "targetY", "textLength", "viewBox", "viewTarget", "xChannelSelector", "yChannelSelector",
    "zoomAndPan"]

def foreignAttributes (vocabulary : Vocabulary) (attributes : List Attribute) : List Attribute :=
  let names :=
    match vocabulary with
    | .html => []
    | .mathml => ["definitionURL"]
    | .svg => svgAttributeNames
  attributes.map fun item => { item with name := withCapitals names item.name }

/-- Opens a foreign element, which ends at once if its tag is self-closing. It is no text, so that
formatting elements are not opened again for it. -/
def insertForeign (vocabulary : Vocabulary) (name : String) (tag : Tag) (builder : Builder) :
    Builder :=
  let opened := builder.openIn vocabulary name (foreignAttributes vocabulary tag.attributes)
  if tag.selfClosing then opened.pop else opened

/-! ## Start tags -/

/-- Closes an open item before the next one. A special element around the new item keeps the open
one as it is. -/
def closeItem (items : List String) (builder : Builder) : Builder :=
  let stops (element : Element) : Bool :=
    element.isAnyOf items ||
      (element.isAnyOf special && !element.isAnyOf transparentToItems)
  match builder.stack.find? stops with
  | none => builder
  | some element => if element.isAnyOf items then builder.closeNamed element.name else builder

def startItem (items : List String) (tag : Tag) (builder : Builder) : Builder :=
  (closeItem items builder.forbidFrameset).closeParagraph.insert tag

def startBlock (tag : Tag) (builder : Builder) : Builder := builder.closeParagraph.insert tag

def startHeading (tag : Tag) (builder : Builder) : Builder :=
  let closed := builder.closeParagraph
  (if closed.currentIs (Element.isAnyOf headings) then closed.pop else closed).insert tag

def startPreformatted (tag : Tag) (builder : Builder) : Builder :=
  { (startBlock tag builder).forbidFrameset with skipsBreak := true }

def startForm (tag : Tag) (builder : Builder) : Builder :=
  let inTemplate := builder.hasOpen "template"
  if builder.form.isSome && !inTemplate then builder
  else
    let closed := builder.closeParagraph
    let opened := closed.insert tag
    if inTemplate then opened else { opened with form := some closed.nextNumber }

def startButton (tag : Tag) (builder : Builder) : Builder :=
  let closed :=
    if builder.inScope Element.bounds (Element.isNamed "button") then
      builder.closeImplied.closeThrough (Element.isNamed "button")
    else builder
  (closed.reconstruct.insert tag).forbidFrameset

def startLink (tag : Tag) (builder : Builder) : Builder :=
  builder.closeEarlierLink.reconstruct.insertFormatting tag

def startFormatting (tag : Tag) (builder : Builder) : Builder :=
  builder.reconstruct.insertFormatting tag

def startUnbroken (tag : Tag) (builder : Builder) : Builder :=
  let opened := builder.reconstruct
  let closed :=
    if opened.inScope Element.bounds (Element.isNamed "nobr") then
      (opened.closeFormatting "nobr").reconstruct
    else opened
  closed.insertFormatting tag

def startEnclosed (tag : Tag) (builder : Builder) : Builder :=
  (builder.reconstruct.insert tag).addMarker.forbidFrameset

def startTable (tag : Tag) (builder : Builder) : Builder :=
  let closed := if builder.tableInParagraph then builder else builder.closeParagraph
  (closed.insert tag).forbidFrameset.goTo .inTable

def isHiddenField (tag : Tag) : Bool :=
  tag.attributes.any fun item =>
    item.name == "type" && item.value.map Char.toLower == "hidden".toList

def startVoid (tag : Tag) (builder : Builder) : Builder :=
  (builder.reconstruct.insertVoid tag).forbidFrameset

def startField (tag : Tag) (builder : Builder) : Builder :=
  let inserted := builder.reconstruct.insertVoid tag
  if isHiddenField tag then inserted else inserted.forbidFrameset

def startRuler (tag : Tag) (builder : Builder) : Builder :=
  (builder.closeParagraph.insertVoid tag).forbidFrameset

def startTextArea (tag : Tag) (builder : Builder) : Builder :=
  { builder.forbidFrameset.insertRaw .references tag with skipsBreak := true }

def startSelection (tag : Tag) (builder : Builder) : Builder :=
  let inTable :=
    [Mode.inTable, .inCaption, .inTableBody, .inRow, .inCell].contains builder.mode
  (builder.reconstruct.insert tag).forbidFrameset.goTo
    (if inTable then .inSelectInTable else .inSelect)

def startOption (tag : Tag) (builder : Builder) : Builder :=
  let closed := if builder.currentIs (Element.isNamed "option") then builder.pop else builder
  closed.reconstruct.insert tag

/-- A part of a ruby annotation; `kept` may stay open. -/
def startRuby (kept : String) (tag : Tag) (builder : Builder) : Builder :=
  if builder.inScope Element.bounds (Element.isNamed "ruby") then
    (builder.closeImpliedExcept kept).insert tag
  else builder.insert tag

def mergeBody (tag : Tag) (builder : Builder) : Builder :=
  match builder.body? with
  | some body =>
    if builder.hasOpen "template" then builder
    else
      { builder with
          framesetOk := false
          trees := Tree.addAttributes body.number tag.attributes builder.trees }
  | none => builder

/-- A set of frames takes the place of a body that has shown nothing yet. -/
def replaceBody (tag : Tag) (builder : Builder) : Builder :=
  match builder.body?, builder.stack.getLast? with
  | some body, some root =>
    if builder.framesetOk then
      let trees :=
        match Tree.detachAny? body.number builder.trees with
        | some detached => detached.left
        | none => builder.trees
      ({ builder with trees, stack := [root] }.insert tag).goTo .inFrameset
    else builder
  | _, _ => builder

def blocks : List String :=
  ["address", "article", "aside", "blockquote", "center", "details", "dialog", "dir", "div", "dl",
    "fieldset", "figcaption", "figure", "footer", "header", "hgroup", "main", "menu", "nav", "ol",
    "p", "search", "section", "summary", "ul"]

def formattingNames : List String :=
  ["b", "big", "code", "em", "font", "i", "s", "small", "strike", "strong", "tt", "u"]

def enclosed : List String := ["applet", "marquee", "object"]

def misplaced : List String :=
  ["caption", "col", "colgroup", "frame", "head", "tbody", "td", "tfoot", "th", "thead", "tr"]

def startTag (tag : Tag) : Builder → Builder :=
  choose [
    (["html"], mergeRoot tag),
    (Head.metadata, Head.insertMetadata tag),
    (["body"], mergeBody tag),
    (["frameset"], replaceBody tag),
    (blocks, startBlock tag),
    (headings, startHeading tag),
    (["pre", "listing"], startPreformatted tag),
    (["form"], startForm tag),
    (["li"], startItem ["li"] tag),
    (["dd", "dt"], startItem ["dd", "dt"] tag),
    (["plaintext"], fun builder => { startBlock tag builder with content := .plain }),
    (["button"], startButton tag),
    (["a"], startLink tag),
    (formattingNames, startFormatting tag),
    (["nobr"], startUnbroken tag),
    (enclosed, startEnclosed tag),
    (["table"], startTable tag),
    (["area", "br", "embed", "img", "keygen", "wbr"], startVoid tag),
    (["input"], startField tag),
    (["param", "source", "track"], insertVoid tag),
    (["hr"], startRuler tag),
    (["image"], startVoid { tag with name := "img" }),
    (["textarea"], startTextArea tag),
    (["xmp"], fun builder =>
      builder.closeParagraph.reconstruct.forbidFrameset.insertRaw .raw tag),
    (["iframe"], fun builder => builder.forbidFrameset.insertRaw .raw tag),
    (["noembed", "noscript"], insertRaw .raw tag),
    (["select"], startSelection tag),
    (["optgroup", "option"], startOption tag),
    (["rb", "rtc"], startRuby "" tag),
    (["rp", "rt"], startRuby "rtc" tag),
    (["math"], insertForeign .mathml tag.name tag),
    (["svg"], insertForeign .svg tag.name tag),
    (misplaced, id)
  ] (fun builder => builder.reconstruct.insert tag) tag.name

/-! ## End tags -/

def endBlock (name : String) (builder : Builder) : Builder :=
  if builder.inScope Element.bounds (Element.isNamed name) then
    builder.closeImplied.closeThrough (Element.isNamed name)
  else builder

/-- The end tag of a form takes the form out of the open elements, wherever it stands. -/
def endForm (builder : Builder) : Builder :=
  if builder.hasOpen "template" then endBlock "form" builder
  else
    match builder.form with
    | none => builder
    | some number =>
      let forgotten := { builder with form := none }
      if forgotten.inScope Element.bounds (·.number == number) then
        forgotten.closeImplied.removeFromStack number
      else forgotten

/-- The end tag of a paragraph that is not open makes an empty one. -/
def endParagraph (builder : Builder) : Builder :=
  if builder.inScope Element.buttonBounds (Element.isNamed "p") then builder.closeNamed "p"
  else (builder.insertImplied "p").closeNamed "p"

def endItem (bounds : Element.Scope) (name : String) (builder : Builder) : Builder :=
  if builder.inScope bounds (Element.isNamed name) then builder.closeNamed name else builder

def endHeading (builder : Builder) : Builder :=
  if builder.inScope Element.bounds (Element.isAnyOf headings) then
    builder.closeImplied.closeThrough (Element.isAnyOf headings)
  else builder

def endEnclosed (name : String) (builder : Builder) : Builder :=
  if builder.inScope Element.bounds (Element.isNamed name) then
    (builder.closeImplied.closeThrough (Element.isNamed name)).clearToMarker
  else builder

def endedBlocks : List String :=
  ["address", "article", "aside", "blockquote", "button", "center", "details", "dialog", "dir",
    "div", "dl", "fieldset", "figcaption", "figure", "footer", "header", "hgroup", "listing",
    "main", "menu", "nav", "ol", "pre", "search", "section", "summary", "ul"]

def endBody (outcome : Builder → Outcome) (builder : Builder) : Outcome :=
  if builder.inScope Element.bounds (Element.isNamed "body") then
    outcome (builder.goTo .afterBody)
  else .done builder

def endTag (name : String) : Builder → Outcome :=
  choose [
    (["template"], fun builder => .done (Head.endTemplate builder)),
    (["body"], endBody .done),
    (["html"], endBody .again),
    (endedBlocks, fun builder => .done (endBlock name builder)),
    (["form"], fun builder => .done (endForm builder)),
    (["p"], fun builder => .done (endParagraph builder)),
    (["li"], fun builder => .done (endItem Element.itemBounds name builder)),
    (["dd", "dt"], fun builder => .done (endItem Element.bounds name builder)),
    (headings, fun builder => .done (endHeading builder)),
    ("a" :: "nobr" :: formattingNames, fun builder => .done (builder.closeFormatting name)),
    (enclosed, fun builder => .done (endEnclosed name builder)),
    (["br"], fun builder => .done (startVoid ⟨"br", [], false⟩ builder))
  ] (fun builder => .done (builder.closeOther name)) name

/-! ## The mode -/

def finish (builder : Builder) : Outcome :=
  if builder.hasOpen "template" then
    .again (Head.leaveTemplate (builder.closeThrough (Element.isNamed "template")))
  else .done builder

def inBody (token : Token) (builder : Builder) : Outcome :=
  match token with
  | .space content => .done (builder.reconstruct.insertText content)
  | .text content => .done (builder.reconstruct.forbidFrameset.insertText content)
  | .comment content => .done (builder.insertComment content)
  | .startTag tag => .done (startTag tag builder)
  | .endTag name => endTag name builder
  | .finish => finish builder
  | .null => .done builder
  | .doctype _ => .done builder
  | .fault => .done builder

def inText (token : Token) (builder : Builder) : Outcome :=
  match token with
  | .space content => .done (builder.insertText content)
  | .text content => .done (builder.insertText content)
  | .finish => .again (builder.pop.goTo builder.returnMode)
  | .endTag name =>
    .done { builder.pop.goTo builder.returnMode with pauses := name == "script" }
  | _ => .done builder

/-! ## After the body -/

/-- A comment between the end of the body and the end of the page goes into the root element. -/
def insertRootComment (content : List Char) (builder : Builder) : Builder :=
  match builder.stack.getLast? with
  | some root =>
    { builder with trees := Tree.appendTo root.number (.comment content) builder.trees }
  | none => builder

def afterBody (token : Token) (builder : Builder) : Outcome :=
  let back := Outcome.again (builder.goTo .inBody)
  match token with
  | .space _ => inBody token builder
  | .comment content => .done (insertRootComment content builder)
  | .startTag tag => if tag.name = "html" then .done (builder.mergeRoot tag) else back
  | .endTag name => if name = "html" then .done (builder.goTo .afterAfterBody) else back
  | .finish => .done builder
  | _ => back

def afterAfterBody (token : Token) (builder : Builder) : Outcome :=
  let back := Outcome.again (builder.goTo .inBody)
  match token with
  | .space _ => inBody token builder
  | .comment content => .done (builder.insertOuterComment content)
  | .startTag tag => if tag.name = "html" then .done (builder.mergeRoot tag) else back
  | .finish => .done builder
  | _ => back

end ChatMarkup.Document.Body
