import ChatMarkup.Document.Lexer.Tag

/-!
Reading comments, document types and character data: what begins with `<!` on a page.
-/

namespace ChatMarkup.Document.Lexer

/-! ## Comments -/

def emitComment (content : List Char) (lexer : Lexer) : Lexer :=
  (lexer.emit (.comment content.reverse)).goTo (.content .markup)

def stepCommentBody (content : List Char) (char : Char) (lexer : Lexer) : Lexer :=
  if char = '-' then lexer.goTo (.comment .dash content)
  else lexer.goTo (.comment .body (visible char :: content))

def stepComment (place : CommentPlace) (content : List Char) (char : Char) (lexer : Lexer) :
    Lexer :=
  match place with
  | .fresh =>
    if char = '-' then lexer.goTo (.comment .freshDash content)
    else if char = '>' then lexer.emitComment content
    else lexer.stepCommentBody content char
  | .freshDash =>
    if char = '-' then lexer.goTo (.comment .dashes content)
    else if char = '>' then lexer.emitComment content
    else lexer.stepCommentBody ('-' :: content) char
  | .body => lexer.stepCommentBody content char
  | .dash =>
    if char = '-' then lexer.goTo (.comment .dashes content)
    else lexer.stepCommentBody ('-' :: content) char
  | .dashes =>
    if char = '>' then lexer.emitComment content
    else if char = '!' then lexer.goTo (.comment .dashesBang content)
    else if char = '-' then lexer.goTo (.comment .dashes ('-' :: content))
    else lexer.stepCommentBody ('-' :: '-' :: content) char
  | .dashesBang =>
    if char = '-' then lexer.goTo (.comment .dash ('!' :: '-' :: '-' :: content))
    else if char = '>' then lexer.emitComment content
    else lexer.stepCommentBody ('!' :: '-' :: '-' :: content) char

def stepBogusComment (content : List Char) (char : Char) (lexer : Lexer) : Lexer :=
  if char = '>' then lexer.emitComment content
  else lexer.goTo (.bogusComment (visible char :: content))

/-! ## Document types -/

def emitDoctype (doctype : OpenDoctype) (lexer : Lexer) : Lexer :=
  (lexer.emit (.doctype doctype.toDoctype)).goTo (.content .markup)

def emitDamaged (doctype : OpenDoctype) (lexer : Lexer) : Lexer :=
  lexer.emitDoctype { doctype with damaged := true }

def stepIgnored (doctype : OpenDoctype) (char : Char) (lexer : Lexer) : Lexer :=
  if char = '>' then lexer.emitDoctype doctype else lexer.goTo (.doctype .ignored doctype)

def stepDamaged (doctype : OpenDoctype) (char : Char) (lexer : Lexer) : Lexer :=
  lexer.stepIgnored { doctype with damaged := true } char

def setIdentifier (identifier : Identifier) (letters : List Char) (doctype : OpenDoctype) :
    OpenDoctype :=
  match identifier with
  | .publicId => { doctype with publicId := some letters }
  | .systemId => { doctype with systemId := some letters }

def getIdentifier (identifier : Identifier) (doctype : OpenDoctype) : List Char :=
  match identifier with
  | .publicId => doctype.publicId.getD []
  | .systemId => doctype.systemId.getD []

def DoctypePlace.after : Identifier → DoctypePlace
  | .publicId => .afterPublicId
  | .systemId => .afterSystemId

def stepKeyword (letters : List Char) (doctype : OpenDoctype) (char : Char) (lexer : Lexer) :
    Lexer :=
  let word := letters ++ [char.toLower]
  if word = "public".toList then lexer.goTo (.doctype (.announced .publicId) doctype)
  else if word = "system".toList then lexer.goTo (.doctype (.announced .systemId) doctype)
  else if word.isPrefixOf "public".toList || word.isPrefixOf "system".toList then
    lexer.goTo (.doctype (.keyword word) doctype)
  else lexer.stepDamaged doctype char

/-- A character where an identifier must begin; `otherwise` takes what is not a mark of one. -/
def stepIdentifierStart (identifier : Identifier) (doctype : OpenDoctype)
    (otherwise : OpenDoctype → Char → Lexer → Lexer) (char : Char) (lexer : Lexer) : Lexer :=
  if char = '"' || char = '\'' then
    lexer.goTo (.doctype (.identifier identifier char) (setIdentifier identifier [] doctype))
  else otherwise doctype char lexer

def stepBeforeName (doctype : OpenDoctype) (char : Char) (lexer : Lexer) : Lexer :=
  if isSpace char then lexer.goTo (.doctype .beforeName doctype)
  else if char = '>' then lexer.emitDamaged doctype
  else lexer.goTo (.doctype .name { doctype with name := [nameChar char] })

def stepDoctype (place : DoctypePlace) (doctype : OpenDoctype) (char : Char) (lexer : Lexer) :
    Lexer :=
  match place with
  | .afterKeyword => lexer.stepBeforeName doctype char
  | .beforeName => lexer.stepBeforeName doctype char
  | .name =>
    if isSpace char then lexer.goTo (.doctype .afterName doctype)
    else if char = '>' then lexer.emitDoctype doctype
    else lexer.goTo (.doctype .name { doctype with name := nameChar char :: doctype.name })
  | .afterName =>
    if isSpace char then lexer
    else if char = '>' then lexer.emitDoctype doctype
    else lexer.stepKeyword [] doctype char
  | .keyword letters => lexer.stepKeyword letters doctype char
  | .announced identifier =>
    if isSpace char then lexer.goTo (.doctype (.beforeIdentifier identifier) doctype)
    else lexer.stepIdentifierStart identifier doctype stepDamaged char
  | .beforeIdentifier identifier =>
    if isSpace char then lexer
    else lexer.stepIdentifierStart identifier doctype stepDamaged char
  | .identifier identifier quote =>
    if char = quote then lexer.goTo (.doctype (.after identifier) doctype)
    else if char = '>' then lexer.emitDamaged doctype
    else
      lexer.goTo (.doctype place
        (setIdentifier identifier (visible char :: getIdentifier identifier doctype) doctype))
  | .afterPublicId =>
    if isSpace char then lexer.goTo (.doctype .betweenIdentifiers doctype)
    else if char = '>' then lexer.emitDoctype doctype
    else lexer.stepIdentifierStart .systemId doctype stepDamaged char
  | .betweenIdentifiers =>
    if isSpace char then lexer
    else if char = '>' then lexer.emitDoctype doctype
    else lexer.stepIdentifierStart .systemId doctype stepDamaged char
  | .afterSystemId =>
    if isSpace char then lexer else lexer.stepIgnored doctype char
  | .ignored => lexer.stepIgnored doctype char

/-! ## The kind of a declaration -/

/-- A character after `<!` and `letters`. Character data exists in foreign content only. -/
def stepDeclaration (foreign : Bool) (letters : List Char) (char : Char) (lexer : Lexer) :
    Lexer :=
  let word := letters ++ [char]
  let lower := word.map Char.toLower
  if word = "--".toList then lexer.goTo (.comment .fresh [])
  else if lower = "doctype".toList then lexer.goTo (.doctype .afterKeyword {})
  else if foreign && word = "[CDATA[".toList then lexer.goTo (.characterData 0)
  else if word.isPrefixOf "--".toList || lower.isPrefixOf "doctype".toList ||
      (foreign && word.isPrefixOf "[CDATA[".toList) then
    lexer.goTo (.declaration word)
  else lexer.stepBogusComment letters.reverse char

/-! ## Character data -/

def stepCharacters (char : Char) (lexer : Lexer) : Lexer :=
  if char = ']' then lexer.goTo (.characterData 1)
  else if char = '\x00' then (lexer.emit .null).goTo (.characterData 0)
  else (lexer.say char).goTo (.characterData 0)

def stepCharacterData (brackets : Nat) (char : Char) (lexer : Lexer) : Lexer :=
  if brackets = 2 && char = '>' then lexer.goTo (.content .markup)
  else if brackets = 2 && char = ']' then lexer.say ']'
  else if brackets = 1 && char = ']' then lexer.goTo (.characterData 2)
  else (lexer.sayAll (List.replicate brackets ']')).stepCharacters char

end ChatMarkup.Document.Lexer
