import ChatMarkup.Document.Lexer.State
import ChatMarkup.Document.Reference

/-!
Reading text, references and tags. Where a character ends one thing and begins another, the step of
the other thing is taken with the same character.
-/

namespace ChatMarkup.Document.Lexer

/-- A character as it stands in a name or a value, where U+0000 cannot stand. -/
def visible (char : Char) : Char := if char = '\x00' then '\uFFFD' else char

def nameChar (char : Char) : Char := visible char.toLower

/-! ## Text -/

def stepContent (content : Content) (char : Char) (lexer : Lexer) : Lexer :=
  match content with
  | .markup =>
    if char = '<' then lexer.goTo .tagOpen
    else if char = '&' then lexer.goTo (.reference (.content .markup) .ampersand)
    else if char = '\x00' then (lexer.emit .null).goTo (.content .markup)
    else (lexer.say char).goTo (.content .markup)
  | .references =>
    if char = '<' then lexer.goTo (.less .references)
    else if char = '&' then lexer.goTo (.reference (.content .references) .ampersand)
    else (lexer.say (visible char)).goTo (.content .references)
  | .raw =>
    if char = '<' then lexer.goTo (.less .raw) else (lexer.say (visible char)).goTo (.content .raw)
  | .script .none =>
    if char = '<' then lexer.goTo (.less (.script .none))
    else (lexer.say (visible char)).goTo (.content (.script .none))
  | .script escape =>
    if char = '<' then lexer.goTo (.less (.script escape))
    else if char = '-' then (lexer.say char).goTo (.escapedDash escape false)
    else (lexer.say (visible char)).goTo (.content (.script escape))
  | .plain => (lexer.say (visible char)).goTo (.content .plain)

/-! ## Tags -/

def emitTag (tag : OpenTag) (selfClosing : Bool) (lexer : Lexer) : Lexer :=
  if tag.isEnd then (lexer.emit (.endTag tag.name)).goTo (.content .markup)
  else
    { (lexer.emit (.startTag ⟨tag.name, tag.attributes.reverse, selfClosing⟩)).goTo
        (.content .markup) with
      lastStart := tag.name }

def stepBetween (tag : OpenTag) (char : Char) (lexer : Lexer) : Lexer :=
  if isSpace char then lexer.goTo (.tag tag .between)
  else if char = '/' then lexer.goTo (.tag tag .slash)
  else if char = '>' then lexer.emitTag tag false
  else lexer.goTo (.tag tag (.name [nameChar char]))

/-- A character of a value that ends with the mark `quote`, or with white space if there is none. -/
def stepValue (tag : OpenTag) (name : List Char) (quote : Option Char) (value : List Char)
    (char : Char) (lexer : Lexer) : Lexer :=
  if char = '&' then lexer.goTo (.reference (.value tag name quote value) .ampersand)
  else
    match quote with
    | some mark =>
      if char = mark then lexer.goTo (.tag (tag.addAttribute name value) .afterValue)
      else lexer.goTo (.tag tag (.value name quote (visible char :: value)))
    | none =>
      if isSpace char then lexer.goTo (.tag (tag.addAttribute name value) .between)
      else if char = '>' then lexer.emitTag (tag.addAttribute name value) false
      else lexer.goTo (.tag tag (.value name quote (visible char :: value)))

def stepTag (tag : OpenTag) (place : TagPlace) (char : Char) (lexer : Lexer) : Lexer :=
  match place with
  | .between => lexer.stepBetween tag char
  | .name name =>
    if isSpace char then lexer.goTo (.tag tag (.afterName name))
    else if char = '=' then lexer.goTo (.tag tag (.beforeValue name))
    else if char = '/' || char = '>' then lexer.stepBetween (tag.addAttribute name []) char
    else lexer.goTo (.tag tag (.name (nameChar char :: name)))
  | .afterName name =>
    if isSpace char then lexer
    else if char = '=' then lexer.goTo (.tag tag (.beforeValue name))
    else lexer.stepBetween (tag.addAttribute name []) char
  | .beforeValue name =>
    if isSpace char then lexer
    else if char = '"' || char = '\'' then lexer.goTo (.tag tag (.value name (some char) []))
    else if char = '>' then lexer.emitTag (tag.addAttribute name []) false
    else lexer.stepValue tag name none [] char
  | .value name quote value => lexer.stepValue tag name quote value char
  | .afterValue => lexer.stepBetween tag char
  | .slash => if char = '>' then lexer.emitTag tag true else lexer.stepBetween tag char

def stepTagName (isEnd : Bool) (name : List Char) (char : Char) (lexer : Lexer) : Lexer :=
  if isSpace char || char = '/' || char = '>' then
    lexer.stepBetween ⟨isEnd, String.ofList name.reverse, []⟩ char
  else lexer.goTo (.tagName isEnd (nameChar char :: name))

/-! ## References -/

def resume (place : ReferencePlace) (text : List Char) (lexer : Lexer) : Lexer :=
  match place with
  | .content content => (lexer.sayAll text).goTo (.content content)
  | .value tag name quote value =>
    lexer.goTo (.tag tag (.value name quote (text.reverse ++ value)))

def resumeWith (place : ReferencePlace) (text : List Char) (char : Char) (lexer : Lexer) :
    Lexer :=
  match place with
  | .content content => (lexer.sayAll text).stepContent content char
  | .value tag name quote value =>
    lexer.stepValue tag name quote (text.reverse ++ value) char

def digit? (base : Nat) (char : Char) : Option Nat :=
  let value :=
    if char.isDigit then char.toNat - '0'.toNat
    else if 'a' ≤ char.toLower && char.toLower ≤ 'f' then char.toLower.toNat - 'a'.toNat + 10
    else base
  if value < base then some value else none

def stepReference (place : ReferencePlace) (part : ReferencePart) (char : Char) (lexer : Lexer) :
    Lexer :=
  match part with
  | .ampersand =>
    if char = '#' then lexer.goTo (.reference place .numberSign)
    else if char.isAlphanum then lexer.goTo (.reference place (.word [char]))
    else lexer.resumeWith place ['&'] char
  | .word word =>
    if char.isAlphanum then lexer.goTo (.reference place (.word (char :: word)))
    else
      let replacement := Reference.replace place.inValue word.reverse (some char)
      if replacement.takesSemicolon then lexer.resume place replacement.text
      else lexer.resumeWith place replacement.text char
  | .numberSign =>
    if char = 'x' || char = 'X' then lexer.goTo (.reference place (.hexMark char))
    else
      match digit? 10 char with
      | some digit => lexer.goTo (.reference place (.digits 10 digit))
      | none => (lexer.emit .fault).resumeWith place ['&', '#'] char
  | .hexMark mark =>
    match digit? 16 char with
    | some digit => lexer.goTo (.reference place (.digits 16 digit))
    | none => (lexer.emit .fault).resumeWith place ['&', '#', mark] char
  | .digits base number =>
    match digit? base char with
    | some digit => lexer.goTo (.reference place (.digits base (number * base + digit)))
    | none =>
      if char = ';' then lexer.resume place [Reference.ofNumber number]
      else (lexer.emit .fault).resumeWith place [Reference.ofNumber number] char

end ChatMarkup.Document.Lexer
