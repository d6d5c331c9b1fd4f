import ChatMarkup.Document.Reader

/-!
The tokens of a page. What is built of a page depends on its characters only through them.
-/

namespace ChatMarkup.Document

namespace Reader

def tokensAt (reader : Reader) (char : Char) : List Token :=
  let lexed (char : Char) : List Token :=
    (reader.lexer.step reader.isForeign char).output.reverse
  if char = byteOrderMark && (reader.skipsMark || (reader.cursor.move char).begins) then []
  else if char = '\r' then lexed '\n'
  else if char = '\n' && reader.skipsFeed then []
  else lexed char

def tokensFrom : Reader → List Char → List Token
  | reader, [] => reader.lexer.finish.output.reverse
  | reader, char :: rest => reader.tokensAt char ++ tokensFrom (reader.step char) rest

/-- The tokens that a text completes which is not the end of the page. -/
def tokensOver : Reader → List Char → List Token
  | _, [] => []
  | reader, char :: rest => reader.tokensAt char ++ tokensOver (reader.step char) rest

theorem tokensOver_append (reader : Reader) (left right : List Char) :
    reader.tokensOver (left ++ right) =
      reader.tokensOver left ++ (left.foldl step reader).tokensOver right := by
  induction left generalizing reader with
  | nil => rfl
  | cons char rest induction =>
      rw [List.cons_append, tokensOver, tokensOver, induction, List.append_assoc]
      rfl

theorem tokensFrom_append (reader : Reader) (left right : List Char) :
    reader.tokensFrom (left ++ right) =
      reader.tokensOver left ++ (left.foldl step reader).tokensFrom right := by
  induction left generalizing reader with
  | nil => rfl
  | cons char rest induction =>
      rw [List.cons_append, tokensFrom, tokensOver, induction, List.append_assoc]
      rfl

theorem builder_takeToken (token : Token) (reader : Reader) :
    (reader.takeToken token).builder = reader.builder.take token := by
  cases token <;> rfl

theorem builder_takeOutput (reader : Reader) :
    reader.takeOutput.builder = reader.lexer.output.reverse.foldl Builder.take reader.builder := by
  have fold (tokens : List Token) (reader : Reader) :
      (tokens.foldl takeToken reader).builder = tokens.foldl Builder.take reader.builder := by
    induction tokens generalizing reader with
    | nil => rfl
    | cons token rest induction =>
        rw [List.foldl_cons, induction, builder_takeToken, List.foldl_cons]
  exact fold _ _

theorem builder_step (reader : Reader) (char : Char) :
    (reader.step char).builder = (reader.tokensAt char).foldl Builder.take reader.builder := by
  rw [step, tokensAt]
  dsimp only
  split
  · rfl
  · split
    · exact builder_takeOutput _
    · split
      · rfl
      · exact builder_takeOutput _

theorem builder_foldl_step (reader : Reader) (text : List Char) :
    (text.foldl step reader).builder =
      (reader.tokensOver text).foldl Builder.take reader.builder := by
  induction text generalizing reader with
  | nil => rfl
  | cons char rest induction =>
      rw [List.foldl_cons, induction, tokensOver, List.foldl_append, builder_step]

theorem builder_finish_foldl_step (reader : Reader) (source : List Char) :
    (source.foldl step reader).finish.builder =
      (reader.tokensFrom source).foldl Builder.take reader.builder := by
  induction source generalizing reader with
  | nil => exact builder_takeOutput _
  | cons char rest induction =>
      rw [List.foldl_cons, induction, tokensFrom, List.foldl_append, builder_step]

end Reader

def tokens (source : List Char) : List Token := Reader.start.tokensFrom source

theorem read_eq_foldl_take (source : List Char) :
    read source = ((tokens source).foldl Builder.take .start).trees := by
  rw [read, Reader.builder_finish_foldl_step]
  rfl

example : tokens "<p>a b</p>".toList =
    [.startTag ⟨"p", [], false⟩, .text ['a'], .space [' '], .text ['b'], .endTag "p", .finish] := by
  decide +kernel

end ChatMarkup.Document
