import ChatMarkup.Document.Lexer.Declaration

/-!
The lexer of a page: one step for every character, and one for the end of the page. It never goes
back over a character, and it needs to be told one thing about the tree, which is whether the open
element is foreign.
-/

namespace ChatMarkup.Document.Lexer

/-! ## Content other than markup -/

def stepLess (content : Content) (char : Char) (lexer : Lexer) : Lexer :=
  match content with
  | .script .twice =>
    if char = '/' then (lexer.sayAll ['<', '/']).goTo (.escapedName [] .once .twice)
    else (lexer.say '<').stepContent content char
  | .script .once =>
    if char = '/' then lexer.goTo (.lessSlash content)
    else if char.isAlpha then
      (lexer.sayAll ['<', char]).goTo (.escapedName [char.toLower] .twice .once)
    else (lexer.say '<').stepContent content char
  | .script .none =>
    if char = '/' then lexer.goTo (.lessSlash content)
    else if char = '!' then (lexer.sayAll ['<', '!']).goTo (.escapeStart false)
    else (lexer.say '<').stepContent content char
  | _ =>
    if char = '/' then lexer.goTo (.lessSlash content)
    else (lexer.say '<').stepContent content char

def stepLessName (content : Content) (name : List Char) (char : Char) (lexer : Lexer) : Lexer :=
  let written := String.ofList (name.reverse.map Char.toLower)
  if char.isAlpha then lexer.goTo (.lessName content (char :: name))
  else if written = lexer.lastStart && (isSpace char || char = '/' || char = '>') then
    lexer.stepBetween ⟨true, written, []⟩ char
  else (lexer.sayAll ('<' :: '/' :: name.reverse)).stepContent content char

def stepLessSlash (content : Content) (char : Char) (lexer : Lexer) : Lexer :=
  if char.isAlpha then lexer.goTo (.lessName content [char])
  else (lexer.sayAll ['<', '/']).stepContent content char

def stepEscapeStart (dash : Bool) (char : Char) (lexer : Lexer) : Lexer :=
  if char = '-' then
    (lexer.say char).goTo (if dash then .escapedDash .once true else .escapeStart true)
  else lexer.stepContent (.script .none) char

def stepEscapedDash (escape : Escape) (more : Bool) (char : Char) (lexer : Lexer) : Lexer :=
  if char = '-' then (lexer.say char).goTo (.escapedDash escape true)
  else if more && char = '>' then (lexer.say char).goTo (.content (.script .none))
  else lexer.stepContent (.script escape) char

def stepEscapedName (name : List Char) (escape otherwise : Escape) (char : Char) (lexer : Lexer) :
    Lexer :=
  if char.isAlpha then
    (lexer.say char).goTo (.escapedName (char.toLower :: name) escape otherwise)
  else if isSpace char || char = '/' || char = '>' then
    (lexer.say char).goTo
      (.content (.script (if name.reverse = "script".toList then escape else otherwise)))
  else lexer.stepContent (.script otherwise) char

/-! ## Markup -/

def stepTagOpen (char : Char) (lexer : Lexer) : Lexer :=
  if char = '!' then lexer.flush.goTo (.declaration [])
  else if char = '/' then lexer.goTo .endTagOpen
  else if char = '?' then lexer.stepBogusComment [] char
  else if char.isAlpha then lexer.stepTagName false [] char
  else (lexer.say '<').stepContent .markup char

def stepEndTagOpen (char : Char) (lexer : Lexer) : Lexer :=
  if char = '>' then (lexer.emit .fault).goTo (.content .markup)
  else if char.isAlpha then lexer.stepTagName true [] char
  else lexer.stepBogusComment [] char

/-- Reads a character; `foreign` says whether the open element is foreign. -/
def step (foreign : Bool) (char : Char) (lexer : Lexer) : Lexer :=
  match lexer.phase with
  | .content content => lexer.stepContent content char
  | .reference place part => lexer.stepReference place part char
  | .tagOpen => lexer.stepTagOpen char
  | .endTagOpen => lexer.stepEndTagOpen char
  | .tagName isEnd name => lexer.stepTagName isEnd name char
  | .tag tag place => lexer.stepTag tag place char
  | .less content => lexer.stepLess content char
  | .lessSlash content => lexer.stepLessSlash content char
  | .lessName content name => lexer.stepLessName content name char
  | .escapeStart dash => lexer.stepEscapeStart dash char
  | .escapedDash escape more => lexer.stepEscapedDash escape more char
  | .escapedName name escape otherwise => lexer.stepEscapedName name escape otherwise char
  | .declaration letters => lexer.stepDeclaration foreign letters char
  | .comment place content => lexer.stepComment place content char
  | .bogusComment content => lexer.stepBogusComment content char
  | .doctype place doctype => lexer.stepDoctype place doctype char
  | .characterData brackets => lexer.stepCharacterData brackets char

/-! ## The end of the page -/

/-- What the end of the page makes of a reference in content; in a tag it is lost with the tag. -/
def finishReference (part : ReferencePart) (lexer : Lexer) : Lexer :=
  match part with
  | .ampersand => lexer.say '&'
  | .word word => lexer.sayAll (Reference.replace false word.reverse none).text
  | .numberSign => (lexer.emit .fault).sayAll ['&', '#']
  | .hexMark mark => (lexer.emit .fault).sayAll ['&', '#', mark]
  | .digits _ number => (lexer.emit .fault).say (Reference.ofNumber number)

/-- Completes what the end of the page completes. A tag is not, and is lost. -/
def complete (lexer : Lexer) : Lexer :=
  match lexer.phase with
  | .content _ => lexer
  | .reference (.content _) part => lexer.finishReference part
  | .reference (.value ..) _ => lexer
  | .tagOpen => lexer.say '<'
  | .endTagOpen => lexer.sayAll ['<', '/']
  | .tagName .. => lexer
  | .tag .. => lexer
  | .less _ => lexer.say '<'
  | .lessSlash _ => lexer.sayAll ['<', '/']
  | .lessName _ name => lexer.sayAll ('<' :: '/' :: name.reverse)
  | .escapeStart _ => lexer
  | .escapedDash .. => lexer
  | .escapedName .. => lexer
  | .declaration letters => lexer.emitComment letters.reverse
  | .comment _ content => lexer.emitComment content
  | .bogusComment content => lexer.emitComment content
  | .doctype .ignored doctype => lexer.emitDoctype doctype
  | .doctype _ doctype => lexer.emitDamaged doctype
  | .characterData brackets => lexer.sayAll (List.replicate brackets ']')

def finish (lexer : Lexer) : Lexer := lexer.complete.emit .finish

end ChatMarkup.Document.Lexer
