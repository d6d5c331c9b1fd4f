import ChatMarkup.Document.Mode.Body

/-!
Pages that consist of frames. They have no body and show no text but white space.
-/

namespace ChatMarkup.Document.Frameset

def endFrameset (builder : Builder) : Builder :=
  if builder.stack.length ≤ 1 then builder
  else
    let closed := builder.pop
    if closed.currentIs (Element.isNamed "frameset") then closed else closed.goTo .afterFrameset

def inFrameset (token : Token) (builder : Builder) : Outcome :=
  match token with
  | .space content => .done (builder.insertText content)
  | .comment content => .done (builder.insertComment content)
  | .startTag tag =>
    .done (choose [
      (["html"], Builder.mergeRoot tag),
      (["frameset"], Builder.insert tag),
      (["frame"], Builder.insertVoid tag),
      (["noframes"], Head.insertMetadata tag)
    ] id tag.name builder)
  | .endTag name => .done (if name = "frameset" then endFrameset builder else builder)
  | _ => .done builder

def afterFrameset (token : Token) (builder : Builder) : Outcome :=
  match token with
  | .space content => .done (builder.insertText content)
  | .comment content => .done (builder.insertComment content)
  | .startTag tag =>
    .done (choose [
      (["html"], Builder.mergeRoot tag),
      (["noframes"], Head.insertMetadata tag)
    ] id tag.name builder)
  | .endTag name => .done (if name = "html" then builder.goTo .afterAfterFrameset else builder)
  | _ => .done builder

def afterAfterFrameset (token : Token) (builder : Builder) : Outcome :=
  match token with
  | .space _ => Body.inBody token builder
  | .comment content => .done (builder.insertOuterComment content)
  | .startTag tag =>
    .done (choose [
      (["html"], Builder.mergeRoot tag),
      (["noframes"], Head.insertMetadata tag)
    ] id tag.name builder)
  | _ => .done builder

end ChatMarkup.Document.Frameset
