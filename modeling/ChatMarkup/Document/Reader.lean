import ChatMarkup.Document.Block
import ChatMarkup.Document.Doctype
import ChatMarkup.Document.Lexer
import ChatMarkup.Document.Mode.Step

/-!
Reading a page by the rules of browsers, which close what the author left open, and writing it again
with every tag in its place.
-/

namespace ChatMarkup.Document

/-! ## Tokens -/

namespace Builder

def take (builder : Builder) (token : Token) : Builder :=
  let plain := { builder with skipsBreak := false, content := .markup, pauses := false }
  match if builder.skipsBreak then withoutBreak token else some token with
  | none => plain
  | some (.doctype doctype) => plain.takeDoctype doctype.isOld doctype.name
  | some .fault => plain
  | some token => takeWithin plain.bound token plain

end Builder

/-! ## The whole page -/

/-- A mark of the order of bytes, which is no part of a page where reading begins. -/
def byteOrderMark : Char := '\uFEFF'

structure Reader where
  lexer : Lexer
  builder : Builder
  cursor : Cursor
  /-- A byte order mark that comes next is no part of the page. -/
  skipsMark : Bool
  /-- A line feed that comes next belongs to a line break that has been read. -/
  skipsFeed : Bool

namespace Reader

def start : Reader := ⟨.start, .start, .start, false, false⟩

def takeToken (reader : Reader) (token : Token) : Reader :=
  let builder := reader.builder.take token
  let taken := { reader with builder, skipsMark := builder.pauses }
  match token with
  | .startTag _ => { taken with lexer := reader.lexer.goTo (.content builder.content) }
  | _ => taken

def takeOutput (reader : Reader) : Reader :=
  reader.lexer.output.reverse.foldl takeToken { reader with lexer.output := [] }

def isForeign (reader : Reader) : Bool :=
  reader.builder.currentIs fun element => !element.isHtml

def lex (char : Char) (reader : Reader) : Reader :=
  takeOutput { reader with lexer := reader.lexer.step reader.isForeign char }

/-- Reads a character of the source. Every carriage return is a line break, together with a line
feed after it. -/
def step (reader : Reader) (char : Char) : Reader :=
  let move := reader.cursor.move char
  let moved := { reader with cursor := move.cursor, skipsMark := false }
  if char = byteOrderMark && (reader.skipsMark || move.begins) then moved
  else
    let next := { moved with skipsFeed := false }
    if char = '\r' then { next.lex '\n' with skipsFeed := true }
    else if char = '\n' && reader.skipsFeed then next
    else next.lex char

def finish (reader : Reader) : Reader := takeOutput { reader with lexer := reader.lexer.finish }

end Reader

/-- The nodes of a page, the latest first. -/
def read (source : List Char) : List Tree := (source.foldl Reader.step .start).finish.builder.trees

def completed (source : List Char) : List Char := Tree.writeAll false [] (read source)

end ChatMarkup.Document
