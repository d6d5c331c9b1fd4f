/-!
What a page consists of before it has a tree: tags, comments, stretches of text, document types.
White space and other text are told apart here, because much of a page's structure does not depend
on white space.
-/

namespace ChatMarkup.Document

structure Attribute where
  name : String
  value : List Char
deriving DecidableEq, Repr

structure Tag where
  name : String
  attributes : List Attribute
  selfClosing : Bool
deriving DecidableEq, Repr

/-- A document type. `damaged` says that it does not have the form of one. -/
structure Doctype where
  name : String
  publicId : Option String
  systemId : Option String
  damaged : Bool
deriving DecidableEq, Repr

inductive Token where
  | doctype (doctype : Doctype)
  | startTag (tag : Tag)
  | endTag (name : String)
  | comment (content : List Char)
  /-- White space, and nothing else. -/
  | space (content : List Char)
  /-- Text without white space. -/
  | text (content : List Char)
  /-- The character U+0000. -/
  | null
  /-- A mistake in the markup that leaves no other token. -/
  | fault
  | finish
deriving DecidableEq, Repr

def isSpace (char : Char) : Bool :=
  char == ' ' || char == '\t' || char == '\n' || char == '\x0c' || char == '\r'

def Token.ofText : List Char → List Token
  | [] => []
  | char :: rest =>
    match isSpace char, Token.ofText rest with
    | true, .space content :: tokens => .space (char :: content) :: tokens
    | true, tokens => .space [char] :: tokens
    | false, .text content :: tokens => .text (char :: content) :: tokens
    | false, tokens => .text [char] :: tokens

example : Token.ofText "a b".toList = [.text ['a'], .space [' '], .text ['b']] := by
  decide +kernel

end ChatMarkup.Document
