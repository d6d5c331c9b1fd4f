import ChatMarkup.Proofs.PageBuilding
import ChatMarkup.Proofs.PageTokens

/-!
Text at the beginning of a page, in front of any tag. It is read as text whatever references and
control characters are in it, and what is built of it is the text of a body, without the white space
in front of it.
-/

namespace ChatMarkup.Document

/-! ## Flat tokens -/

namespace Token

/-- Text, or what leaves no node. -/
def isFlat : Token → Bool
  | .space _ => true
  | .text _ => true
  | .null => true
  | .fault => true
  | _ => false

theorem isFlat_of_isStretch {token : Token} (stretch : token.isStretch = true) :
    token.isFlat = true := by
  cases token with
  | space content => rfl
  | text content => rfl
  | _ => cases stretch

theorem isFlat_of_mem_ofText {text : List Char} :
    ∀ token ∈ ofText text, token.isFlat = true := fun token member =>
  isFlat_of_isStretch (isStretch_of_mem_ofText token member)

end Token

/-! ## Reading the text -/

namespace Lexer

def EmitsFlat (lexer : Lexer) : Prop := ∀ token ∈ lexer.output, token.isFlat = true

def Phase.isText : Phase → Bool
  | .content .markup => true
  | .reference (.content .markup) _ => true
  | _ => false

variable {lexer : Lexer}

theorem EmitsFlat.flush (flat : lexer.EmitsFlat) : lexer.flush.EmitsFlat := by
  intro token member
  rcases List.mem_append.mp member with pending | before
  · exact Token.isFlat_of_mem_ofText token (List.mem_reverse.mp pending)
  · exact flat token before

theorem EmitsFlat.emit (flat : lexer.EmitsFlat) {token : Token} (isFlat : token.isFlat = true) :
    (lexer.emit token).EmitsFlat :=
  List.forall_mem_cons.mpr ⟨isFlat, flat.flush⟩

variable {char : Char}

theorem EmitsFlat.stepContent (flat : lexer.EmitsFlat) (different : char ≠ '<') :
    (lexer.stepContent .markup char).EmitsFlat ∧
      (lexer.stepContent .markup char).phase.isText = true := by
  rw [Lexer.stepContent, if_neg different]
  split
  · exact ⟨flat, rfl⟩
  · split
    · exact ⟨flat.emit rfl, rfl⟩
    · exact ⟨flat, rfl⟩

theorem digit?_bracket (base : Nat) : digit? base '<' = none := by
  have value : digit? base '<' = if base < base then some base else none := rfl
  rw [value, if_neg (Nat.lt_irrefl base)]

theorem eq_semicolon_of_takesSemicolon {inValue : Bool} {word : List Char} {next : Option Char}
    (taken : (Reference.replace inValue word next).takesSemicolon = true) : next = some ';' := by
  by_contra different
  rw [Reference.replace, if_neg different] at taken
  dsimp only at taken
  split at taken
  · cases taken
  · split at taken
    · cases taken
    · split at taken <;> cases taken

/-- A character of a reference is part of it, or ends it. An opening bracket ends every
reference. -/
theorem stepReference_cases (place : ReferencePlace) (part : ReferencePart) (char : Char)
    (lexer : Lexer) :
    (char ≠ '<' ∧ ∃ more,
      lexer.stepReference place part char = lexer.goTo (.reference place more)) ∨
    (char ≠ '<' ∧ ∃ text, lexer.stepReference place part char = lexer.resume place text) ∨
    ∃ next text, (next = lexer ∨ next = lexer.emit .fault) ∧
      lexer.stepReference place part char = next.resumeWith place text char := by
  have ne_of_isAlphanum : char.isAlphanum = true → char ≠ '<' := by
    rintro letter rfl
    exact absurd letter (by decide)
  have ne_of_digit? : ∀ base digit, digit? base char = some digit → char ≠ '<' := by
    rintro base digit found rfl
    rw [digit?_bracket] at found
    cases found
  cases part with
  | ampersand =>
      rw [stepReference]
      split
      · rename_i mark
        exact .inl ⟨mark ▸ by decide, _, rfl⟩
      split
      · rename_i letter
        exact .inl ⟨ne_of_isAlphanum letter, _, rfl⟩
      · exact .inr (.inr ⟨_, _, .inl rfl, rfl⟩)
  | word word =>
      rw [stepReference]
      split
      · rename_i letter
        exact .inl ⟨ne_of_isAlphanum letter, _, rfl⟩
      dsimp only
      split
      · rename_i taken
        have semicolon := Option.some.inj (eq_semicolon_of_takesSemicolon taken)
        exact .inr (.inl ⟨semicolon ▸ by decide, _, rfl⟩)
      · exact .inr (.inr ⟨_, _, .inl rfl, rfl⟩)
  | numberSign =>
      rw [stepReference]
      split
      · rename_i mark
        exact .inl ⟨by rintro rfl; exact absurd mark (by decide), _, rfl⟩
      split
      · rename_i digit found
        exact .inl ⟨ne_of_digit? _ _ found, _, rfl⟩
      · exact .inr (.inr ⟨_, _, .inr rfl, rfl⟩)
  | hexMark mark =>
      rw [stepReference]
      split
      · rename_i digit found
        exact .inl ⟨ne_of_digit? _ _ found, _, rfl⟩
      · exact .inr (.inr ⟨_, _, .inr rfl, rfl⟩)
  | digits base number =>
      rw [stepReference]
      split
      · rename_i digit found
        exact .inl ⟨ne_of_digit? _ _ found, _, rfl⟩
      split
      · rename_i semicolon
        exact .inr (.inl ⟨semicolon ▸ by decide, _, rfl⟩)
      · exact .inr (.inr ⟨_, _, .inr rfl, rfl⟩)

theorem exists_content_of_isText {phase : Phase} (inText : phase.isText = true) :
    phase = .content .markup ∨ ∃ part, phase = .reference (.content .markup) part := by
  unfold Phase.isText at inText
  split at inText
  · exact .inl rfl
  · rename_i part
    exact .inr ⟨part, rfl⟩
  · cases inText

theorem EmitsFlat.of_fault {next : Lexer} (flat : lexer.EmitsFlat)
    (led : next = lexer ∨ next = lexer.emit .fault) : next.EmitsFlat := by
  rcases led with rfl | rfl
  · exact flat
  · exact flat.emit rfl

/-- Text stays text up to an opening bracket. -/
theorem EmitsFlat.step (flat : lexer.EmitsFlat) (inText : lexer.phase.isText = true)
    (different : char ≠ '<') (foreign : Bool) :
    (lexer.step foreign char).EmitsFlat ∧ (lexer.step foreign char).phase.isText = true := by
  rw [Lexer.step]
  rcases exists_content_of_isText inText with phase | ⟨part, phase⟩
  · rw [phase]
    exact flat.stepContent different
  · rw [phase]
    dsimp only
    rcases stepReference_cases (.content .markup) part char lexer with
      ⟨-, more, stepped⟩ | ⟨-, text, stepped⟩ | ⟨next, text, led, stepped⟩
    · rw [stepped]
      exact ⟨flat, rfl⟩
    · rw [stepped]
      exact ⟨flat, rfl⟩
    · rw [stepped]
      have nextFlat := flat.of_fault led
      have said : (next.sayAll text).EmitsFlat := nextFlat
      exact said.stepContent different

theorem EmitsFlat.step_bracket (flat : lexer.EmitsFlat) (inText : lexer.phase.isText = true)
    (foreign : Bool) :
    (lexer.step foreign '<').EmitsFlat ∧ (lexer.step foreign '<').phase = .tagOpen := by
  rw [Lexer.step]
  rcases exists_content_of_isText inText with phase | ⟨part, phase⟩
  · rw [phase]
    exact ⟨flat, rfl⟩
  · rw [phase]
    dsimp only
    rcases stepReference_cases (.content .markup) part '<' lexer with
      ⟨noBracket, -⟩ | ⟨noBracket, -⟩ | ⟨next, text, led, stepped⟩
    · exact absurd rfl noBracket
    · exact absurd rfl noBracket
    · have nextFlat := flat.of_fault led
      have said : (next.sayAll text).EmitsFlat := nextFlat
      rw [stepped]
      exact ⟨said, rfl⟩

end Lexer

namespace Reader

variable {reader : Reader}

/-- The lexer changes by itself, as long as it reads no start tag. -/
theorem lexer_takeOutput (noTags : ∀ token ∈ reader.lexer.output, ∀ tag, token ≠ .startTag tag) :
    reader.takeOutput.lexer = { reader.lexer with output := [] } := by
  have kept : ∀ tokens : List Token, (∀ token ∈ tokens, ∀ tag, token ≠ .startTag tag) →
      ∀ reader : Reader, (tokens.foldl takeToken reader).lexer = reader.lexer := by
    intro tokens noTags
    induction tokens with
    | nil => exact fun _ => rfl
    | cons token rest induction =>
        intro reader
        rw [List.forall_mem_cons] at noTags
        rw [List.foldl_cons, induction noTags.2]
        cases token with
        | startTag tag => exact absurd rfl (noTags.1 tag)
        | _ => rfl
  exact kept _ (fun token member => noTags token (List.mem_reverse.mp member)) _

/-- A character of the source is lost, or the lexer reads it, or reads a line break in its place. -/
theorem step_cases (reader : Reader) (char : Char) :
    (reader.tokensAt char = [] ∧ (reader.step char).lexer = reader.lexer) ∨
    ∃ read, (read = char ∨ read = '\n') ∧
      reader.tokensAt char = (reader.lexer.step reader.isForeign read).output.reverse ∧
      ((∀ token ∈ reader.tokensAt char, ∀ tag, token ≠ .startTag tag) →
        (reader.step char).lexer =
          { reader.lexer.step reader.isForeign read with output := [] }) := by
  rw [step, tokensAt]
  dsimp only
  split
  · exact .inl ⟨rfl, rfl⟩
  split
  · refine .inr ⟨'\n', .inr rfl, rfl, fun noTags => lexer_takeOutput ?_⟩
    exact fun token member => noTags token (List.mem_reverse.mpr member)
  split
  · exact .inl ⟨rfl, rfl⟩
  · refine .inr ⟨char, .inl rfl, rfl, fun noTags => lexer_takeOutput ?_⟩
    exact fun token member => noTags token (List.mem_reverse.mpr member)

def isOrdinary (char : Char) : Bool := char != byteOrderMark && char != '\r' && char != '\n'

theorem isOrdinary_of_isPlainChar {char : Char} (plain : isPlainChar char = true) :
    isOrdinary char = true :=
  forall_isPlainChar (fun char => isOrdinary char = true) (by decide +kernel) plain

theorem step_of_isOrdinary {char : Char} (ordinary : isOrdinary char = true) (reader : Reader) :
    reader.tokensAt char = (reader.lexer.step reader.isForeign char).output.reverse ∧
      reader.step char = takeOutput { reader with
        lexer := reader.lexer.step reader.isForeign char
        cursor := (reader.cursor.move char).cursor
        skipsMark := false
        skipsFeed := false } := by
  simp only [isOrdinary, Bool.and_eq_true, bne_iff_ne] at ordinary
  rcases ordinary with ⟨⟨notMark, notReturn⟩, notFeed⟩
  simp only [tokensAt, step, lex, decide_eq_false notMark, if_neg notReturn,
    decide_eq_false notFeed, Bool.false_and, if_neg Bool.false_ne_true, true_and]
  rfl

structure InText (reader : Reader) : Prop where
  phase : reader.lexer.phase.isText = true
  taken : reader.lexer.output = []

theorem InText.emitsFlat (inText : reader.InText) : reader.lexer.EmitsFlat := by
  intro token member
  rw [inText.taken] at member
  cases member

theorem notStartTag_of_isFlat {token : Token} (flat : token.isFlat = true) (tag : Tag) :
    token ≠ .startTag tag := by
  rintro rfl
  cases flat

theorem InText.step (inText : reader.InText) {char : Char} (different : char ≠ '<') :
    (∀ token ∈ reader.tokensAt char, token.isFlat = true) ∧ (reader.step char).InText := by
  rcases step_cases reader char with ⟨silent, kept⟩ | ⟨read, reads, tokens, lexed⟩
  · rw [silent]
    exact ⟨List.forall_mem_nil _, kept ▸ inText.phase, kept ▸ inText.taken⟩
  · have readDifferent : read ≠ '<' := by
      rcases reads with rfl | rfl
      · exact different
      · decide
    rcases inText.emitsFlat.step inText.phase readDifferent reader.isForeign with ⟨flat, stays⟩
    have allFlat : ∀ token ∈ reader.tokensAt char, token.isFlat = true := fun token member =>
      flat token (List.mem_reverse.mp (tokens ▸ member))
    have after := lexed fun token member => notStartTag_of_isFlat (allFlat token member)
    exact ⟨allFlat, by rw [after]; exact stays, by rw [after]⟩

/-- A text completes flat tokens only. -/
theorem InText.foldl_step (inText : reader.InText) {text : List Char} (free : '<' ∉ text) :
    (∀ token ∈ reader.tokensOver text, token.isFlat = true) ∧
      (text.foldl Reader.step reader).InText := by
  induction text generalizing reader with
  | nil => exact ⟨List.forall_mem_nil _, inText⟩
  | cons char rest induction =>
      rw [List.mem_cons, not_or] at free
      rcases inText.step (Ne.symm free.1) with ⟨flat, stays⟩
      rcases induction stays free.2 with ⟨restFlat, last⟩
      exact ⟨List.forall_mem_append.mpr ⟨flat, restFlat⟩, last⟩

end Reader

/-! ## Building the text -/

def Token.isSkipped : Token → Bool
  | .space _ => true
  | .fault => true
  | _ => false

def leadingText (tokens : List Token) : List Char :=
  (tokens.dropWhile Token.isSkipped).flatMap Token.content

namespace Builder

/-- The builder in the body of a page, after texts, the latest first. -/
def afterTexts (framesetOk : Bool) (contents : List (List Char)) : Builder :=
  .flowing framesetOk (bodyTrees (contents.map .text)) [body, root] 3

/-- What has been built of a text at the beginning of a page: nothing as long as nothing is shown,
and then a body with the text. -/
inductive AtText : List Char → Builder → Prop where
  | blank : AtText [] .start
  | shown (framesetOk : Bool) (contents : List (List Char)) :
      AtText contents.reverse.flatten (afterTexts framesetOk contents)

theorem exists_take_afterTexts {token : Token} (flat : token.isFlat = true) (framesetOk : Bool)
    (contents : List (List Char)) :
    ∃ stillOk more, (afterTexts framesetOk contents).take token = afterTexts stillOk more ∧
      more.reverse.flatten = contents.reverse.flatten ++ token.content := by
  cases token with
  | space content => exact ⟨framesetOk, content :: contents, rfl, by simp [Token.content]⟩
  | text content => exact ⟨false, content :: contents, rfl, by simp [Token.content]⟩
  | null => exact ⟨framesetOk, contents, rfl, (List.append_nil _).symm⟩
  | fault => exact ⟨framesetOk, contents, rfl, (List.append_nil _).symm⟩
  | _ => cases flat

theorem exists_foldl_take_afterTexts {tokens : List Token}
    (flat : ∀ token ∈ tokens, token.isFlat = true) (framesetOk : Bool)
    (contents : List (List Char)) :
    ∃ stillOk more, tokens.foldl Builder.take (afterTexts framesetOk contents) =
        afterTexts stillOk more ∧
      more.reverse.flatten = contents.reverse.flatten ++ tokens.flatMap Token.content := by
  induction tokens generalizing framesetOk contents with
  | nil => exact ⟨framesetOk, contents, rfl, (List.append_nil _).symm⟩
  | cons token rest induction =>
      rw [List.forall_mem_cons] at flat
      rcases exists_take_afterTexts flat.1 framesetOk contents with ⟨nextOk, next, taken, text⟩
      rcases induction flat.2 nextOk next with ⟨stillOk, more, all, whole⟩
      refine ⟨stillOk, more, ?_, ?_⟩
      · rw [List.foldl_cons, taken, all]
      · rw [whole, text, List.flatMap_cons, List.append_assoc]

theorem atText_foldl_take {tokens : List Token}
    (flat : ∀ token ∈ tokens, token.isFlat = true) :
    AtText (leadingText tokens) (tokens.foldl Builder.take .start) := by
  induction tokens with
  | nil => exact .blank
  | cons token rest induction =>
      rw [List.forall_mem_cons] at flat
      have begun : ∀ framesetOk contents, Builder.start.take token =
          afterTexts framesetOk contents → contents.reverse.flatten = token.content →
          token.isSkipped = false →
          AtText (leadingText (token :: rest)) ((token :: rest).foldl Builder.take .start) := by
        intro framesetOk contents taken text shows
        rcases exists_foldl_take_afterTexts flat.2 framesetOk contents with
          ⟨stillOk, more, all, whole⟩
        have shown := AtText.shown stillOk more
        rw [whole, text, ← List.flatMap_cons] at shown
        rw [leadingText, List.dropWhile_cons_of_neg (Bool.eq_false_iff.mp shows), List.foldl_cons,
          taken, all]
        exact shown
      cases token with
      | space content => exact induction flat.2
      | fault => exact induction flat.2
      | text content => exact begun false [content] rfl (List.flatten_singleton ..) rfl
      | null => exact begun true [] rfl rfl rfl
      | _ => cases flat.1

end Builder

end ChatMarkup.Document
