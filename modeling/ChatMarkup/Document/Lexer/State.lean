import ChatMarkup.Document.Token

/-!
Where a lexer of a page can be. The lexer goes over the characters once; whatever it has read of a
token that is not complete is part of its phase. Names, values and texts that are being read are
held with their last character first.
-/

namespace ChatMarkup.Document

/-- How much of a script looks like a comment, or like a script inside a comment. -/
inductive Escape where
  | none
  | once
  | twice
deriving DecidableEq, Repr

inductive Content where
  /-- Tags, comments and references. -/
  | markup
  /-- References, and the end tag of the open element. -/
  | references
  /-- Nothing but the end tag of the open element. -/
  | raw
  | script (escape : Escape)
  | plain
deriving DecidableEq, Repr

namespace Lexer

/-- A tag whose closing bracket has not come yet. Its attributes are held with the latest first. -/
structure OpenTag where
  isEnd : Bool
  name : String
  attributes : List Attribute

/-- Of two attributes with one name the first counts. -/
def OpenTag.addAttribute (name value : List Char) (tag : OpenTag) : OpenTag :=
  let added : Attribute := ⟨String.ofList name.reverse, value.reverse⟩
  if tag.attributes.any (·.name == added.name) then tag
  else { tag with attributes := added :: tag.attributes }

inductive TagPlace where
  | between
  | name (name : List Char)
  | afterName (name : List Char)
  | beforeValue (name : List Char)
  /-- In a value, with the quotation mark that ends it, if there is one. -/
  | value (name : List Char) (quote : Option Char) (value : List Char)
  | afterValue
  | slash

inductive ReferencePlace where
  | content (content : Content)
  | value (tag : OpenTag) (name : List Char) (quote : Option Char) (value : List Char)

def ReferencePlace.inValue : ReferencePlace → Bool
  | .content _ => false
  | .value .. => true

inductive ReferencePart where
  | ampersand
  | word (word : List Char)
  | numberSign
  /-- The ampersand, the number sign and an x. -/
  | hexMark (mark : Char)
  | digits (base number : Nat)

inductive CommentPlace where
  | fresh
  | freshDash
  | body
  | dash
  | dashes
  | dashesBang

inductive Identifier where
  | publicId
  | systemId
deriving DecidableEq

inductive DoctypePlace where
  | afterKeyword
  | beforeName
  | name
  | afterName
  | keyword (letters : List Char)
  /-- Right after one of the words that announce an identifier. -/
  | announced (identifier : Identifier)
  | beforeIdentifier (identifier : Identifier)
  | identifier (identifier : Identifier) (quote : Char)
  | afterPublicId
  | betweenIdentifiers
  | afterSystemId
  /-- Everything up to the closing bracket is ignored. -/
  | ignored

structure OpenDoctype where
  name : List Char := []
  publicId : Option (List Char) := none
  systemId : Option (List Char) := none
  damaged : Bool := false

def OpenDoctype.toDoctype (doctype : OpenDoctype) : Doctype where
  name := String.ofList doctype.name.reverse
  publicId := doctype.publicId.map fun letters => String.ofList letters.reverse
  systemId := doctype.systemId.map fun letters => String.ofList letters.reverse
  damaged := doctype.damaged

inductive Phase where
  | content (content : Content)
  | reference (place : ReferencePlace) (part : ReferencePart)
  | tagOpen
  | endTagOpen
  | tagName (isEnd : Bool) (name : List Char)
  | tag (tag : OpenTag) (place : TagPlace)
  | less (content : Content)
  | lessSlash (content : Content)
  /-- In the name of an end tag in other content, as it is written. -/
  | lessName (content : Content) (name : List Char)
  /-- After `<!` in a script, and any dash after it. -/
  | escapeStart (dash : Bool)
  /-- After one dash, or more than one, in an escaped script. -/
  | escapedDash (escape : Escape) (more : Bool)
  /-- In a name after `<` or `</` in an escaped script; `escape` is what the name `script` leads
  to, and `otherwise` what another name leads to. -/
  | escapedName (name : List Char) (escape otherwise : Escape)
  | declaration (letters : List Char)
  | comment (place : CommentPlace) (content : List Char)
  /-- In a comment that ends with the first closing bracket. -/
  | bogusComment (content : List Char)
  | doctype (place : DoctypePlace) (doctype : OpenDoctype)
  /-- In a section of character data, after so many closing square brackets. -/
  | characterData (brackets : Nat)

end Lexer

structure Lexer where
  phase : Lexer.Phase
  /-- Text that has been read and not emitted, the last character first. -/
  pending : List Char
  /-- The name of the latest start tag, which the end tag of raw content has to agree with. -/
  lastStart : String
  /-- The tokens that have not been taken yet, the latest first. -/
  output : List Token

namespace Lexer

def start : Lexer := ⟨.content .markup, [], "", []⟩

def goTo (phase : Phase) (lexer : Lexer) : Lexer := { lexer with phase }

def say (char : Char) (lexer : Lexer) : Lexer := { lexer with pending := char :: lexer.pending }

def sayAll (text : List Char) (lexer : Lexer) : Lexer :=
  { lexer with pending := text.reverse ++ lexer.pending }

def flush (lexer : Lexer) : Lexer :=
  { lexer with
      pending := []
      output := (Token.ofText lexer.pending.reverse).reverse ++ lexer.output }

def emit (token : Token) (lexer : Lexer) : Lexer :=
  let flushed := lexer.flush
  { flushed with output := token :: flushed.output }

end Lexer

end ChatMarkup.Document
