import ChatMarkup.Proofs.Marks

/-!
Reading text and plain tags of a page. A stretch of text is collected as it is, without the marks
that are lost, and the tag after it hands its tokens to the builder.
-/

namespace ChatMarkup.Document

def PlainText (text : List Char) : Prop := ∀ char ∈ text, char ∉ ['<', '&', '\x00', '\r']

instance (text : List Char) : Decidable (PlainText text) := List.decidableBAll _ text

/-! ## Stretches of text -/

namespace Token

def isStretch : Token → Bool
  | .space _ => true
  | .text _ => true
  | _ => false

def content : Token → List Char
  | .space content => content
  | .text content => content
  | _ => []

/-- One more character makes the first stretch longer, or is a stretch of its own. -/
theorem ofText_cons (char : Char) (rest : List Char) :
    (∃ first second tokens, ofText rest = first :: tokens ∧
      ofText (char :: rest) = second :: tokens ∧
      second.isStretch = true ∧ second.content = char :: first.content) ∨
    ∃ first, ofText (char :: rest) = first :: ofText rest ∧
      first.isStretch = true ∧ first.content = [char] := by
  rw [ofText]
  split
  · rename_i content tokens _ before
    exact .inl ⟨.space content, .space (char :: content), tokens, before, rfl, rfl, rfl⟩
  · exact .inr ⟨.space [char], rfl, rfl, rfl⟩
  · rename_i content tokens _ before
    exact .inl ⟨.text content, .text (char :: content), tokens, before, rfl, rfl, rfl⟩
  · exact .inr ⟨.text [char], rfl, rfl, rfl⟩

theorem isStretch_of_mem_ofText {text : List Char} :
    ∀ token ∈ ofText text, token.isStretch = true := by
  induction text with
  | nil => exact fun token member => nomatch member
  | cons char rest induction =>
      rcases ofText_cons char rest with
        ⟨first, second, tokens, before, after, stretch, -⟩ | ⟨first, after, stretch, -⟩
      · rw [before, List.forall_mem_cons] at induction
        rw [after, List.forall_mem_cons]
        exact ⟨stretch, induction.2⟩
      · rw [after, List.forall_mem_cons]
        exact ⟨stretch, induction⟩

theorem flatMap_content_ofText (text : List Char) : (ofText text).flatMap content = text := by
  induction text with
  | nil => rfl
  | cons char rest induction =>
      rcases ofText_cons char rest with
        ⟨first, second, tokens, before, after, -, longer⟩ | ⟨first, after, -, single⟩
      · rw [before, List.flatMap_cons] at induction
        rw [after, List.flatMap_cons, longer, List.cons_append, induction]
      · rw [after, List.flatMap_cons, single, induction]
        rfl

end Token

namespace Reader

def within (phase : Lexer.Phase) (pending : List Char) (lastStart : String) (builder : Builder)
    (cursor : Cursor) : Reader :=
  ⟨⟨phase, pending, lastStart, []⟩, builder, cursor, false, false⟩

variable {builder : Builder} {cursor : Cursor} {pending : List Char} {lastStart : String}

/-- A step of the lexer that emits nothing. -/
theorem step_within {phase next : Lexer.Phase} {said : List Char} {char : Char}
    (notReturn : char ≠ '\r') (stays : (char = byteOrderMark && (cursor.move char).begins) = false)
    (lexed : ∀ foreign, Lexer.step foreign char ⟨phase, pending, lastStart, []⟩ =
      ⟨next, said, lastStart, []⟩) :
    (within phase pending lastStart builder cursor).step char =
      within next said lastStart builder (cursor.move char).cursor := by
  simp only [step, within, Bool.false_or, stays, if_neg notReturn, Bool.and_false, lex, lexed]
  rfl

theorem step_within_plain {phase next : Lexer.Phase} {said : List Char} {char : Char}
    (plain : isPlainChar char = true)
    (lexed : ∀ foreign, Lexer.step foreign char ⟨phase, pending, lastStart, []⟩ =
      ⟨next, said, lastStart, []⟩) :
    (within phase pending lastStart builder cursor).step char =
      within next said lastStart builder (cursor.move char).cursor := by
  have notMark : char ≠ byteOrderMark := ne_of_isPlainChar plain (by decide)
  exact step_within (ne_of_isPlainChar plain (by decide)) (by simp [notMark]) lexed

/-! ## Text -/

theorem step_lost {phase : Lexer.Phase} {char : Char}
    (lost : (char = byteOrderMark && (cursor.move char).begins) = true) :
    (within phase pending lastStart builder cursor).step char =
      within phase pending lastStart builder (cursor.move char).cursor := by
  simp only [step, within, Bool.false_or, lost, if_true]

theorem foldl_step_plainText {text : List Char} (plain : PlainText text) :
    text.foldl step (within (.content .markup) pending lastStart builder cursor) =
      within (.content .markup) ((cursor.kept text).reverse ++ pending) lastStart builder
        (cursor.pass text) := by
  induction text generalizing pending cursor with
  | nil => rfl
  | cons char rest induction =>
      rw [PlainText, List.forall_mem_cons] at plain
      rcases plain with ⟨first, later⟩
      simp only [List.mem_cons, List.not_mem_nil, or_false, not_or] at first
      rcases first with ⟨notLess, notAmpersand, notNull, notReturn⟩
      rw [List.foldl_cons, Cursor.kept]
      split
      · rename_i lost
        rw [step_lost lost, induction later]
        rfl
      · rename_i stays
        have said : ∀ foreign, Lexer.step foreign char
            ⟨.content .markup, pending, lastStart, []⟩ =
              ⟨.content .markup, char :: pending, lastStart, []⟩ := by
          intro foreign
          simp [Lexer.step, Lexer.stepContent, Lexer.say, Lexer.goTo, notLess, notAmpersand,
            notNull]
        rw [step_within notReturn (Bool.eq_false_iff.mpr stays) said, induction later,
          List.reverse_cons, List.append_assoc]
        rfl

/-! ## Tags -/

/-- What a phase collects is held with its last character first. -/
theorem foldl_step_collecting (phase : List Char → Lexer.Phase) {name : List Char}
    (plain : ∀ char ∈ name, isPlainChar char = true)
    (collects : ∀ char ∈ name, ∀ foreign before,
      Lexer.step foreign char ⟨phase before, pending, lastStart, []⟩ =
        ⟨phase (char :: before), pending, lastStart, []⟩)
    (before : List Char) :
    name.foldl step (within (phase before) pending lastStart builder cursor) =
      within (phase (name.reverse ++ before)) pending lastStart builder (cursor.pass name) := by
  induction name generalizing before cursor with
  | nil => rfl
  | cons char name induction =>
      rw [List.forall_mem_cons] at plain collects
      rw [List.foldl_cons, step_within_plain plain.1 fun foreign => collects.1 foreign before,
        induction plain.2 collects.2, List.reverse_cons, List.append_assoc]
      rfl

theorem foldl_takeToken_stretches {tokens : List Token}
    (stretches : ∀ token ∈ tokens, token.isStretch = true) (reader : Reader) :
    ∃ skipsMark, tokens.foldl takeToken reader =
      { reader with builder := tokens.foldl Builder.take reader.builder, skipsMark } := by
  induction tokens generalizing reader with
  | nil => exact ⟨reader.skipsMark, rfl⟩
  | cons token rest induction =>
      rw [List.forall_mem_cons] at stretches
      rcases induction stretches.2 (reader.takeToken token) with ⟨skipsMark, taken⟩
      refine ⟨skipsMark, ?_⟩
      rw [List.foldl_cons, taken]
      cases token with
      | startTag tag => cases stretches.1
      | _ => rfl

def tokensBefore (pending : List Char) (token : Token) : List Token :=
  Token.ofText pending.reverse ++ [token]

/-- What is told the lexer and the reader by the last of the tokens alone counts. -/
theorem takeOutput_tokensBefore (token : Token) {phase : Lexer.Phase} :
    takeOutput ⟨⟨phase, [], lastStart, (tokensBefore pending token).reverse⟩, builder, cursor,
        false, false⟩ =
      takeToken ⟨⟨phase, [], lastStart, []⟩,
        (Token.ofText pending.reverse).foldl Builder.take builder, cursor, false, false⟩ token := by
  rcases foldl_takeToken_stretches
      (@Token.isStretch_of_mem_ofText pending.reverse)
      ⟨⟨phase, [], lastStart, []⟩, builder, cursor, false, false⟩ with ⟨skipsMark, taken⟩
  rw [takeOutput, List.reverse_reverse, tokensBefore, List.foldl_append]
  refine (congrArg (takeToken · token) taken).trans ?_
  cases token <;> rfl

theorem foldl_take_tokensBefore (token : Token) :
    (tokensBefore pending token).foldl Builder.take builder =
      ((Token.ofText pending.reverse).foldl Builder.take builder).take token := by
  rw [tokensBefore, List.foldl_append]
  rfl

/-- The closing bracket of a tag hands over the text before the tag, and the tag. -/
theorem step_tagEnd (isEnd : Bool) (name : String) {lastName : String} (token : Token)
    (lastNamed : lastName = if isEnd then lastStart else name)
    (completed : token = if isEnd then .endTag name else .startTag ⟨name, [], false⟩) :
    (within (.tagName isEnd name.toList.reverse) pending lastStart builder cursor).step '>' =
      takeOutput ⟨⟨.content .markup, [], lastName, (tokensBefore pending token).reverse⟩,
        builder, (cursor.move '>').cursor, false, false⟩ := by
  subst lastNamed completed
  cases isEnd <;>
    simp [step, within, lex, Lexer.step, Lexer.stepTagName, Lexer.stepBetween, Lexer.emitTag,
      isSpace, Lexer.emit, Lexer.flush, Lexer.goTo, tokensBefore, byteOrderMark]

theorem stepTagName_plain {char : Char} (plain : isPlainChar char = true) (isEnd : Bool)
    (before : List Char) (lexer : Lexer) :
    lexer.stepTagName isEnd before char = lexer.goTo (.tagName isEnd (char :: before)) := by
  have notSpace : isSpace char = false :=
    forall_isPlainChar (fun char => isSpace char = false) (by decide +kernel) plain
  have same : Lexer.nameChar char = char :=
    forall_isPlainChar (fun char => Lexer.nameChar char = char) (by decide +kernel) plain
  have notSlash : char ≠ '/' := ne_of_isPlainChar plain (by decide)
  have notBracket : char ≠ '>' := ne_of_isPlainChar plain (by decide)
  simp [Lexer.stepTagName, notSpace, same, notSlash, notBracket]

/-- The name of a tag, from the bracket or the slash before it on. -/
theorem foldl_step_tagName {name : List Char} (plain : PlainName name) (isEnd : Bool)
    {opened : Lexer.Phase}
    (opens : ∀ char foreign, char.isAlpha = true → isPlainChar char = true →
      Lexer.step foreign char ⟨opened, pending, lastStart, []⟩ =
        ⟨.tagName isEnd [char], pending, lastStart, []⟩) :
    name.foldl step (within opened pending lastStart builder cursor) =
      within (.tagName isEnd name.reverse) pending lastStart builder (cursor.pass name) := by
  rcases plain.exists_cons with ⟨initial, rest, rfl, lower, plainChars⟩
  rw [List.forall_mem_cons] at plainChars
  have isLetter := isAlpha_of_isLower lower
  have collects : ∀ char ∈ rest, ∀ foreign before,
      Lexer.step foreign char ⟨.tagName isEnd before, pending, lastStart, []⟩ =
        ⟨.tagName isEnd (char :: before), pending, lastStart, []⟩ :=
    fun char member _ before => stepTagName_plain (plainChars.2 char member) isEnd before _
  rw [List.foldl_cons, step_within_plain plainChars.1 fun foreign =>
    opens initial foreign isLetter plainChars.1,
    foldl_step_collecting (.tagName isEnd) plainChars.2 collects, List.reverse_cons]
  rfl

theorem step_bracket :
    (within (.content .markup) pending lastStart builder cursor).step '<' =
      within .tagOpen pending lastStart builder (cursor.move '<').cursor :=
  step_within (by decide) (by simp [byteOrderMark]) fun _ => rfl

theorem foldl_step_startTag {name : String} (plain : PlainName name.toList)
    {next : Builder} (taken : (tokensBefore pending (.startTag ⟨name, [], false⟩)).foldl
      Builder.take builder = next)
    (isMarkup : next.content = .markup) (goesOn : next.pauses = false) :
    (Node.startTag name).foldl step (within (.content .markup) pending lastStart builder cursor) =
      within (.content .markup) [] name next (cursor.pass (Node.startTag name)) := by
  have opens : ∀ char foreign, char.isAlpha = true → isPlainChar char = true →
      Lexer.step foreign char ⟨.tagOpen, pending, lastStart, []⟩ =
        ⟨.tagName false [char], pending, lastStart, []⟩ := by
    intro char foreign isLetter plainChar
    have notMark : char ≠ '!' := ne_of_isPlainChar plainChar (by decide)
    have notSlash : char ≠ '/' := ne_of_isPlainChar plainChar (by decide)
    have notQuestion : char ≠ '?' := ne_of_isPlainChar plainChar (by decide)
    simp [Lexer.step, Lexer.stepTagOpen, notMark, notSlash, notQuestion, isLetter,
      stepTagName_plain plainChar, Lexer.goTo]
  rw [Node.startTag, List.foldl_cons, step_bracket, List.foldl_append,
    foldl_step_tagName plain false opens, List.foldl_cons,
    step_tagEnd false name (.startTag ⟨name, [], false⟩) rfl rfl, takeOutput_tokensBefore]
  rw [foldl_take_tokensBefore] at taken
  simp only [takeToken, taken, isMarkup, goesOn, Lexer.goTo, List.foldl_nil, Cursor.pass,
    List.foldl_cons, List.foldl_append]
  rfl

theorem foldl_step_endTag {name : String} (plain : PlainName name.toList) {next : Builder}
    (taken : (tokensBefore pending (.endTag name)).foldl Builder.take builder = next)
    (goesOn : next.pauses = false) :
    (Node.endTag name).foldl step (within (.content .markup) pending lastStart builder cursor) =
      within (.content .markup) [] lastStart next (cursor.pass (Node.endTag name)) := by
  have opens : ∀ char foreign, char.isAlpha = true → isPlainChar char = true →
      Lexer.step foreign char ⟨.endTagOpen, pending, lastStart, []⟩ =
        ⟨.tagName true [char], pending, lastStart, []⟩ := by
    intro char foreign isLetter plainChar
    have notBracket : char ≠ '>' := ne_of_isPlainChar plainChar (by decide)
    simp [Lexer.step, Lexer.stepEndTagOpen, notBracket, isLetter, stepTagName_plain plainChar,
      Lexer.goTo]
  have slashed : (within .tagOpen pending lastStart builder (cursor.move '<').cursor).step '/' =
      within .endTagOpen pending lastStart builder
        ((cursor.move '<').cursor.move '/').cursor :=
    step_within (by decide) (by simp [byteOrderMark]) fun _ => rfl
  rw [Node.endTag, List.foldl_cons, step_bracket, List.foldl_cons, slashed, List.foldl_append,
    foldl_step_tagName plain true opens, List.foldl_cons,
    step_tagEnd true name (.endTag name) rfl rfl, takeOutput_tokensBefore]
  rw [foldl_take_tokensBefore] at taken
  simp only [takeToken, taken, goesOn, List.foldl_nil, Cursor.pass, List.foldl_cons,
    List.foldl_append]
  rfl

theorem builder_finish :
    (within (.content .markup) pending lastStart builder cursor).finish.builder =
      (tokensBefore pending .finish).foldl Builder.take builder := by
  have emitted : (within (.content .markup) pending lastStart builder cursor).finish =
      takeOutput ⟨⟨.content .markup, [], lastStart, (tokensBefore pending .finish).reverse⟩,
        builder, cursor, false, false⟩ := by
    simp [finish, within, Lexer.finish, Lexer.complete, Lexer.emit, Lexer.flush, tokensBefore]
  rw [emitted, takeOutput_tokensBefore, foldl_take_tokensBefore]
  rfl

end Reader

end ChatMarkup.Document
