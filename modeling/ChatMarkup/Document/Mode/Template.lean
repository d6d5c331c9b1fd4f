import ChatMarkup.Document.Mode.Body

/-!
Templates. The first tag in a template decides what the template is a part of.
-/

namespace ChatMarkup.Document.Template

/-- Takes the token again in a mode that stands for the template from now on. -/
def become (mode : Mode) (builder : Builder) : Outcome :=
  .again { builder with mode, templateModes := mode :: builder.templateModes.tail }

def inTemplate (token : Token) (builder : Builder) : Outcome :=
  match token with
  | .startTag tag =>
    choose [
      (Head.metadata, fun builder => .done (Head.insertMetadata tag builder)),
      ("caption" :: "colgroup" :: rowGroups, become .inTable),
      (["col"], become .inColumnGroup),
      (["tr"], become .inTableBody),
      (cells, become .inRow)
    ] (become .inBody) tag.name builder
  | .endTag name =>
    .done (if name = "template" then Head.endTemplate builder else builder)
  | .finish => Body.finish builder
  | _ => Body.inBody token builder

end ChatMarkup.Document.Template
