import ChatMarkup.Document.Reader
import ChatMarkup.Proofs.SoundBuilding

/-!
Tags that the rules of building let stand where a reader takes them for misnested: items in front
of a table, tables in paragraphs on pages of old, and forms that are closed while something else is
open in them. They are told by what is open when they come, so that some of them would do no harm.
Tags of drawings, formulas and templates, and framesets that may replace the body, are left out
altogether. Other pages are built with every element in its place.
-/

namespace ChatMarkup.Document

/-- Tags with these names lead out of the rules of a page, or past an open item. -/
def strayNames : List String := ["svg", "math", "template", "isindex"]

namespace Builder

def betweenParts : List Mode := [.inTable, .inTableBody, .inRow]

def straysAtStart (name : String) (builder : Builder) : Bool :=
  strayNames.contains name ||
    (name == "frameset" && (builder.framesetOk || builder.mode == .afterHead)) ||
    (name == "table" && builder.tableInParagraph && holdsParagraph builder.stack) ||
    (itemKinds.flatten.contains name &&
      (searchEnd? builder.stack).any (Element.isAnyOf tableParts)) ||
    (name == "form" && betweenParts.contains builder.mode &&
      builder.currentIs (Element.isNamed "p"))

def straysAtEnd (name : String) (builder : Builder) : Bool :=
  name == "form" && builder.form.any fun number =>
    builder.inScope Element.bounds (·.number == number) &&
      !builder.closeImplied.currentIs (·.number == number)

def strays (token : Token) (builder : Builder) : Bool :=
  match token with
  | .startTag tag => builder.straysAtStart tag.name
  | .endTag name => builder.straysAtEnd name
  | _ => false

/-- The token strays at one of the times that it is looked at. -/
def straysWithin : Nat → Token → Builder → Bool
  | 0, _, _ => false
  | bound + 1, token, builder =>
    builder.strays token ||
      match builder.step token with
      | .done _ => false
      | .again next => straysWithin bound token next

def straysWhenTaken (token : Token) (builder : Builder) : Bool :=
  let plain := { builder with skipsBreak := false, content := .markup, pauses := false }
  match if builder.skipsBreak then withoutBreak token else some token with
  | none => false
  | some (.doctype _) => false
  | some .fault => false
  | some token => straysWithin plain.bound token plain

def straysAmong : List Token → Builder → Bool
  | [], _ => false
  | token :: rest, builder =>
    builder.straysWhenTaken token || straysAmong rest (builder.take token)

end Builder

end ChatMarkup.Document
