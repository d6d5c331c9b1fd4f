import ChatMarkup.Proofs.PageScripts

/-!
Scripts without slashes. All of such a script is text up to the end of the page, since an end tag
has a slash in it. In front of the script there may be a text that a page holds as it is.
-/

namespace ChatMarkup.Document

/-! ## Steps in the script -/

namespace Lexer

def Phase.isScriptText : Phase → Bool
  | .content (.script _) => true
  | .less (.script _) => true
  | .escapeStart _ => true
  | .escapedDash .. => true
  | .escapedName .. => true
  | _ => false

/-- All tokens have been taken, and no slash is in the text that is still held. -/
structure HoldsNoSlash (lexer : Lexer) : Prop where
  taken : lexer.output = []
  noSlash : '/' ∉ lexer.pending

def ReadsScriptText (lexer : Lexer) : Prop :=
  lexer.HoldsNoSlash ∧ lexer.phase.isScriptText = true

namespace HoldsNoSlash

variable {lexer : Lexer} {char : Char}

theorem reads (holds : lexer.HoldsNoSlash) {phase : Phase} (isText : phase.isScriptText = true) :
    (lexer.goTo phase).ReadsScriptText :=
  ⟨⟨holds.taken, holds.noSlash⟩, isText⟩

theorem sayAll (holds : lexer.HoldsNoSlash) {text : List Char} (noSlash : '/' ∉ text) :
    (lexer.sayAll text).HoldsNoSlash := by
  refine ⟨holds.taken, fun member => ?_⟩
  rcases List.mem_append.mp member with said | held
  · exact noSlash (List.mem_reverse.mp said)
  · exact holds.noSlash held

theorem say (holds : lexer.HoldsNoSlash) (different : char ≠ '/') :
    (lexer.say char).HoldsNoSlash :=
  holds.sayAll fun member => different (List.mem_singleton.mp member).symm

theorem visible_ne (different : char ≠ '/') : visible char ≠ '/' := by
  rw [visible]
  split
  · decide
  · exact different

theorem stepContent (holds : lexer.HoldsNoSlash) (different : char ≠ '/') (escape : Escape) :
    (lexer.stepContent (.script escape) char).ReadsScriptText := by
  have said := holds.say (visible_ne different)
  cases escape with
  | none =>
      dsimp only [Lexer.stepContent]
      split
      · exact holds.reads rfl
      · exact said.reads rfl
  | _ =>
      dsimp only [Lexer.stepContent]
      repeat' split
      · exact holds.reads rfl
      · exact (holds.say different).reads rfl
      · exact said.reads rfl

theorem stepLess (holds : lexer.HoldsNoSlash) (different : char ≠ '/') (escape : Escape) :
    (lexer.stepLess (.script escape) char).ReadsScriptText := by
  have literal := (holds.say (by decide : '<' ≠ '/')).stepContent different escape
  cases escape with
  | none =>
      rw [Lexer.stepLess, if_neg different]
      split
      · exact (holds.sayAll (by decide)).reads rfl
      · exact literal
  | once =>
      rw [Lexer.stepLess, if_neg different]
      split
      · refine (holds.sayAll fun member => ?_).reads rfl
        simp [Ne.symm different] at member
      · exact literal
  | twice =>
      rw [Lexer.stepLess, if_neg different]
      exact literal

theorem stepEscapeStart (holds : lexer.HoldsNoSlash) (different : char ≠ '/') (dash : Bool) :
    (lexer.stepEscapeStart dash char).ReadsScriptText := by
  rw [Lexer.stepEscapeStart]
  split
  · cases dash <;> exact (holds.say different).reads rfl
  · exact holds.stepContent different _

theorem stepEscapedDash (holds : lexer.HoldsNoSlash) (different : char ≠ '/') (escape : Escape)
    (more : Bool) : (lexer.stepEscapedDash escape more char).ReadsScriptText := by
  rw [Lexer.stepEscapedDash]
  repeat' split
  · exact (holds.say different).reads rfl
  · exact (holds.say different).reads rfl
  · exact holds.stepContent different _

theorem stepEscapedName (holds : lexer.HoldsNoSlash) (different : char ≠ '/') (name : List Char)
    (escape otherwise : Escape) :
    (lexer.stepEscapedName name escape otherwise char).ReadsScriptText := by
  rw [Lexer.stepEscapedName]
  split
  · exact (holds.say different).reads rfl
  split
  · exact (holds.say different).reads rfl
  · exact holds.stepContent different _

end HoldsNoSlash

namespace ReadsScriptText

variable {lexer : Lexer} {char : Char}

theorem step (reads : lexer.ReadsScriptText) (different : char ≠ '/') (foreign : Bool) :
    (lexer.step foreign char).ReadsScriptText := by
  rcases lexer with ⟨phase, pending, lastStart, output⟩
  rcases reads with ⟨holds, isText⟩
  unfold Phase.isScriptText at isText
  dsimp only at isText
  split at isText
  · exact holds.stepContent different _
  · exact holds.stepLess different _
  · exact holds.stepEscapeStart different _
  · exact holds.stepEscapedDash different _ _
  · exact holds.stepEscapedName different _ _ _
  · cases isText

theorem complete (reads : lexer.ReadsScriptText) : lexer.complete.HoldsNoSlash := by
  rcases lexer with ⟨phase, pending, lastStart, output⟩
  rcases reads with ⟨holds, isText⟩
  unfold Phase.isScriptText at isText
  dsimp only at isText
  split at isText
  · exact holds
  · exact holds.say (by decide)
  · exact holds
  · exact holds
  · exact holds
  · cases isText

end ReadsScriptText

end Lexer

/-! ## The page -/

namespace Reader

variable {reader : Reader}

/-- A script without slashes is one text, which ends with the page. -/
theorem tokensFrom_of_slash_notMem (reads : reader.lexer.ReadsScriptText) {content : List Char}
    (noSlash : '/' ∉ content) :
    ∃ text, '/' ∉ text ∧ reader.tokensFrom content = Token.ofText text ++ [.finish] := by
  induction content generalizing reader with
  | nil =>
      have completed := reads.complete
      refine ⟨reader.lexer.complete.pending.reverse, ?_, ?_⟩
      · exact fun member => completed.noSlash (List.mem_reverse.mp member)
      · simp [tokensFrom, Lexer.finish, Lexer.emit, Lexer.flush, completed.taken]
  | cons char rest induction =>
      rw [List.mem_cons, not_or] at noSlash
      rcases step_cases reader char with ⟨silent, kept⟩ | ⟨read, isRead, tokens, lexed⟩
      · rw [tokensFrom, silent]
        exact induction (kept ▸ reads) noSlash.2
      · have different : read ≠ '/' := by
          rcases isRead with rfl | rfl
          · exact Ne.symm noSlash.1
          · decide
        have stepped := reads.step different reader.isForeign
        rw [stepped.1.taken] at tokens
        rw [tokensFrom, tokens]
        refine induction ?_ noSlash.2
        rw [lexed fun token member => by simp [tokens] at member]
        exact ⟨⟨rfl, stepped.1.noSlash⟩, stepped.2⟩

end Reader

theorem tokens_of_slash_notMem {before content : List Char} (free : '<' ∉ before)
    (noSlash : '/' ∉ content) :
    ∃ script, '/' ∉ script ∧
      tokens (before ++ (Node.startTag "script" ++ content)) =
        textTokens before ++ .startTag scriptTag :: (Token.ofText script ++ [.finish]) := by
  rcases exists_opened_script free with ⟨-, reader, lexer, pageTokens⟩
  have reads : reader.lexer.ReadsScriptText := by
    rw [lexer]
    exact ⟨⟨rfl, List.not_mem_nil⟩, rfl⟩
  rcases Reader.tokensFrom_of_slash_notMem reads noSlash with ⟨script, scriptFree, scriptTokens⟩
  exact ⟨script, scriptFree, by rw [pageTokens, scriptTokens]⟩

/-! ## The text in front of it -/

namespace Reader

variable {builder : Builder} {cursor : Cursor} {pending : List Char} {lastStart : String}

/-- Text that a page holds as it is completes no token. -/
theorem tokensOver_plainText {text : List Char} (plain : PlainText text) :
    (within (.content .markup) pending lastStart builder cursor).tokensOver text = [] := by
  induction text generalizing pending cursor with
  | nil => rfl
  | cons char rest induction =>
      have plainChar : PlainText [char] := fun other member =>
        plain other (List.mem_cons.mpr (.inl (List.mem_singleton.mp member)))
      have stepped : (within (.content .markup) pending lastStart builder cursor).step char =
          within (.content .markup) ((cursor.kept [char]).reverse ++ pending) lastStart builder
            (cursor.pass [char]) := foldl_step_plainText plainChar
      rw [PlainText, List.forall_mem_cons] at plain
      rcases plain with ⟨notSpecial, plainRest⟩
      simp only [List.mem_cons, List.not_mem_nil, or_false, not_or] at notSpecial
      rcases notSpecial with ⟨notLess, notAmpersand, notNull, notReturn⟩
      have silent : (within (.content .markup) pending lastStart builder cursor).tokensAt char =
          [] := by
        rw [tokensAt]
        dsimp only
        rw [if_neg notReturn]
        repeat' split
        · rfl
        · rfl
        · simp [within, Lexer.step, Lexer.stepContent, Lexer.say, Lexer.goTo, notLess,
            notAmpersand, notNull]
      rw [tokensOver, silent, stepped, induction plainRest]
      rfl

end Reader

theorem textTokens_plainText {text : List Char} (plain : PlainText text)
    (noMark : byteOrderMark ∉ text) : textTokens text = Token.ofText text := by
  have begins : Reader.start = Reader.within (.content .markup) [] "" .start .start := rfl
  have kept : Cursor.kept text .start = text :=
    Cursor.kept_eq_self (Cursor.losesMark_of_free noMark .start)
  rw [textTokens, begins, Reader.tokensOver_plainText plain, Reader.foldl_step_plainText plain,
    Reader.textTokens, Reader.step_bracket,
    (Reader.step_of_isOrdinary (by decide : Reader.isOrdinary '<' = true) _).1, kept]
  change [] ++ ([] ++ Token.ofText (text.reverse ++ []).reverse) = _
  simp

theorem leadingText_ofText {text : List Char}
    (shows : ∀ char ∈ text.head?, isSpace char = false) :
    leadingText (Token.ofText text) = text := by
  cases text with
  | nil => rfl
  | cons char rest =>
      have whole := Token.flatMap_content_ofText (char :: rest)
      have begins : ∃ content tokens,
          Token.ofText (char :: rest) = .text content :: tokens := by
        rw [Token.ofText, shows char rfl]
        cases Token.ofText rest with
        | nil => exact ⟨_, _, rfl⟩
        | cons token tokens => cases token <;> exact ⟨_, _, rfl⟩
      rcases begins with ⟨content, tokens, begins⟩
      rw [begins] at whole ⊢
      exact whole

/-! ## The texts of the page -/

/-- Without slashes in it a script does not end, and what is read of it has no slashes either. -/
theorem texts_of_slash_notMem {before content : List Char} (free : '<' ∉ before)
    (noSlash : '/' ∉ content) {page : List Char}
    (whole : page = before ++ (Node.startTag "script" ++ content)) :
    .endTag "script" ∉ tokens page ∧ '/' ∉ textAfterTag (tokens page) ∧
      textBeforeTag (tokens page) = leadingText (textTokens before) := by
  rcases tokens_of_slash_notMem free noSlash with ⟨script, scriptFree, pageTokens⟩
  have flat := (exists_opened_script free).1
  rcases @texts_of_startTag _ (Token.ofText script ++ [.finish]) flat scriptTag with ⟨front, back⟩
  rw [whole, pageTokens, front, back, List.flatMap_append, Token.flatMap_content_ofText]
  refine ⟨fun ended => ?_, ?_, rfl⟩
  · rcases List.mem_append.mp ended with inFront | inScript
    · cases flat _ inFront
    · rw [List.mem_cons, List.mem_append, List.mem_singleton] at inScript
      rcases inScript with isStart | inText | isFinish
      · cases isStart
      · cases Token.isStretch_of_mem_ofText _ inText
      · cases isFinish
  · simpa [Token.content] using scriptFree

end ChatMarkup.Document
