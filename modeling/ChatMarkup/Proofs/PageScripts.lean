import ChatMarkup.Proofs.LeadingText

/-!
Reading a script on a page. Its content is text up to its end tag; whatever looks like a tag, a
comment or a reference in it is text as well, and so is an end tag that does not end.
-/

namespace ChatMarkup.Document

/-! ## Steps in a script -/

namespace Lexer

def OpenTag.endsScript (tag : OpenTag) : Bool := tag.isEnd && tag.name == "script"

def Phase.isScript : Phase → Bool
  | .content (.script _) => true
  | .less (.script _) => true
  | .lessSlash (.script _) => true
  | .lessName (.script _) _ => true
  | .escapeStart _ => true
  | .escapedDash .. => true
  | .escapedName .. => true
  | .tag opened _ => opened.endsScript
  | .reference (.value opened ..) _ => opened.endsScript
  | _ => false

/-- The latest start tag was that of a script, and only text has come since. -/
structure AfterScriptTag (lexer : Lexer) : Prop where
  flat : lexer.EmitsFlat
  lastStart : lexer.lastStart = "script"

/-- The script goes on, or its end tag is there. -/
def StaysScript (lexer : Lexer) : Prop :=
  (lexer.AfterScriptTag ∧ lexer.phase.isScript = true) ∨ .endTag "script" ∈ lexer.output

namespace AfterScriptTag

variable {lexer : Lexer} {tag : OpenTag} {char : Char}

theorem stays (after : lexer.AfterScriptTag) {phase : Phase} (isScript : phase.isScript = true) :
    (lexer.goTo phase).StaysScript :=
  .inl ⟨⟨after.flat, after.lastStart⟩, isScript⟩

theorem say (after : lexer.AfterScriptTag) (char : Char) : (lexer.say char).AfterScriptTag :=
  ⟨after.flat, after.lastStart⟩

theorem sayAll (after : lexer.AfterScriptTag) (text : List Char) :
    (lexer.sayAll text).AfterScriptTag :=
  ⟨after.flat, after.lastStart⟩

theorem fault (after : lexer.AfterScriptTag) : (lexer.emit .fault).AfterScriptTag :=
  ⟨after.flat.emit rfl, after.lastStart⟩

theorem stepContent (after : lexer.AfterScriptTag) (escape : Escape) (char : Char) :
    (lexer.stepContent (.script escape) char).StaysScript := by
  cases escape with
  | none =>
      dsimp only [Lexer.stepContent]
      split
      · exact after.stays rfl
      · exact (after.say _).stays rfl
  | _ =>
      dsimp only [Lexer.stepContent]
      repeat' split
      · exact after.stays rfl
      all_goals exact (after.say _).stays rfl

theorem stepLess (after : lexer.AfterScriptTag) (escape : Escape) (char : Char) :
    (lexer.stepLess (.script escape) char).StaysScript := by
  cases escape with
  | none =>
      dsimp only [Lexer.stepLess]
      repeat' split
      · exact after.stays rfl
      · exact (after.sayAll _).stays rfl
      · exact (after.say _).stepContent _ char
  | once =>
      dsimp only [Lexer.stepLess]
      repeat' split
      · exact after.stays rfl
      · exact (after.sayAll _).stays rfl
      · exact (after.say _).stepContent _ char
  | twice =>
      dsimp only [Lexer.stepLess]
      split
      · exact (after.sayAll _).stays rfl
      · exact (after.say _).stepContent _ char

theorem stepLessSlash (after : lexer.AfterScriptTag) (escape : Escape) (char : Char) :
    (lexer.stepLessSlash (.script escape) char).StaysScript := by
  rw [Lexer.stepLessSlash]
  split
  · exact after.stays rfl
  · exact (after.sayAll _).stepContent _ char

theorem stepEscapeStart (after : lexer.AfterScriptTag) (dash : Bool) (char : Char) :
    (lexer.stepEscapeStart dash char).StaysScript := by
  rw [Lexer.stepEscapeStart]
  split
  · cases dash <;> exact (after.say _).stays rfl
  · exact after.stepContent _ char

theorem stepEscapedDash (after : lexer.AfterScriptTag) (escape : Escape) (more : Bool)
    (char : Char) : (lexer.stepEscapedDash escape more char).StaysScript := by
  rw [Lexer.stepEscapedDash]
  repeat' split
  · exact (after.say _).stays rfl
  · exact (after.say _).stays rfl
  · exact after.stepContent _ char

theorem stepEscapedName (after : lexer.AfterScriptTag) (name : List Char)
    (escape otherwise : Escape) (char : Char) :
    (lexer.stepEscapedName name escape otherwise char).StaysScript := by
  rw [Lexer.stepEscapedName]
  split
  · exact (after.say _).stays rfl
  split
  · exact (after.say _).stays rfl
  · exact after.stepContent _ char

/-! The end tag may have white space in it, a slash, and even attributes. -/

theorem staysScript_emitTag (ends : tag.endsScript = true) (selfClosing : Bool) :
    (lexer.emitTag tag selfClosing).StaysScript := by
  rw [OpenTag.endsScript, Bool.and_eq_true, beq_iff_eq] at ends
  rw [Lexer.emitTag, if_pos ends.1, ends.2]
  exact .inr List.mem_cons_self

theorem endsScript_addAttribute (ends : tag.endsScript = true) (name value : List Char) :
    (tag.addAttribute name value).endsScript = true := by
  rw [OpenTag.addAttribute]
  split
  · exact ends
  · exact ends

theorem stepBetween (after : lexer.AfterScriptTag) (ends : tag.endsScript = true) (char : Char) :
    (lexer.stepBetween tag char).StaysScript := by
  rw [Lexer.stepBetween]
  repeat' split
  · exact after.stays ends
  · exact after.stays ends
  · exact staysScript_emitTag ends false
  · exact after.stays ends

theorem stepValue (after : lexer.AfterScriptTag) (ends : tag.endsScript = true)
    (name : List Char) (quote : Option Char) (value : List Char) (char : Char) :
    (lexer.stepValue tag name quote value char).StaysScript := by
  have added := endsScript_addAttribute ends name value
  cases quote with
  | some mark =>
      dsimp only [Lexer.stepValue]
      repeat' split
      · exact after.stays ends
      · exact after.stays added
      · exact after.stays ends
  | none =>
      dsimp only [Lexer.stepValue]
      repeat' split
      · exact after.stays ends
      · exact after.stays added
      · exact staysScript_emitTag added false
      · exact after.stays ends

theorem stepTag (after : lexer.AfterScriptTag) (ends : tag.endsScript = true) (place : TagPlace)
    (phase : lexer.phase = .tag tag place) (char : Char) :
    (lexer.stepTag tag place char).StaysScript := by
  have waits : lexer.StaysScript := .inl ⟨after, phase ▸ ends⟩
  cases place with
  | between => exact after.stepBetween ends char
  | name name =>
      dsimp only [Lexer.stepTag]
      repeat' split
      · exact after.stays ends
      · exact after.stays ends
      · exact after.stepBetween (endsScript_addAttribute ends name []) char
      · exact after.stays ends
  | afterName name =>
      dsimp only [Lexer.stepTag]
      repeat' split
      · exact waits
      · exact after.stays ends
      · exact after.stepBetween (endsScript_addAttribute ends name []) char
  | beforeValue name =>
      dsimp only [Lexer.stepTag]
      repeat' split
      · exact waits
      · exact after.stays ends
      · exact staysScript_emitTag (endsScript_addAttribute ends name []) false
      · exact after.stepValue ends name none [] char
  | value name quote value => exact after.stepValue ends name quote value char
  | afterValue => exact after.stepBetween ends char
  | slash =>
      dsimp only [Lexer.stepTag]
      split
      · exact staysScript_emitTag ends true
      · exact after.stepBetween ends char

theorem stepLessName (after : lexer.AfterScriptTag) (escape : Escape) (name : List Char)
    (char : Char) : (lexer.stepLessName (.script escape) name char).StaysScript := by
  rw [Lexer.stepLessName]
  split
  · exact after.stays rfl
  split
  · rename_i ended
    rw [Bool.and_eq_true, decide_eq_true_eq, after.lastStart] at ended
    rw [ended.1]
    exact after.stepBetween rfl char
  · exact (after.sayAll _).stepContent _ char

theorem stepReference (after : lexer.AfterScriptTag) (ends : tag.endsScript = true)
    (name : List Char) (quote : Option Char) (value : List Char) (part : ReferencePart)
    (char : Char) :
    (lexer.stepReference (.value tag name quote value) part char).StaysScript := by
  rcases stepReference_cases (.value tag name quote value) part char lexer with
    ⟨-, more, stepped⟩ | ⟨-, text, stepped⟩ | ⟨next, text, led, stepped⟩
  · rw [stepped]
    exact after.stays ends
  · rw [stepped]
    exact after.stays ends
  · have nextAfter : next.AfterScriptTag := by
      rcases led with rfl | rfl
      · exact after
      · exact after.fault
    rw [stepped]
    exact nextAfter.stepValue ends name quote _ char

theorem step (after : lexer.AfterScriptTag) (inScript : lexer.phase.isScript = true)
    (foreign : Bool) (char : Char) : (lexer.step foreign char).StaysScript := by
  rcases lexer with ⟨phase, pending, lastStart, output⟩
  unfold Phase.isScript at inScript
  dsimp only at inScript
  split at inScript
  · exact after.stepContent _ char
  · exact after.stepLess _ char
  · exact after.stepLessSlash _ char
  · exact after.stepLessName _ _ char
  · exact after.stepEscapeStart _ char
  · exact after.stepEscapedDash _ _ char
  · exact after.stepEscapedName _ _ _ char
  · exact after.stepTag inScript _ rfl char
  · exact after.stepReference inScript _ _ _ _ char
  · cases inScript

/-- The end of the page makes text of what it completes in a script. -/
theorem complete (after : lexer.AfterScriptTag) (inScript : lexer.phase.isScript = true) :
    lexer.complete.EmitsFlat := by
  rcases lexer with ⟨phase, pending, lastStart, output⟩
  unfold Phase.isScript at inScript
  dsimp only at inScript
  split at inScript
  all_goals first | exact after.flat | cases inScript

end AfterScriptTag

end Lexer

/-! ## Tokens of a script -/

namespace Reader

variable {reader : Reader}

structure InScript (reader : Reader) : Prop where
  after : reader.lexer.AfterScriptTag
  phase : reader.lexer.phase.isScript = true

theorem InScript.step (inScript : reader.InScript) (char : Char) :
    .endTag "script" ∈ reader.tokensAt char ∨
      (∀ token ∈ reader.tokensAt char, token.isFlat = true) ∧ (reader.step char).InScript := by
  rcases step_cases reader char with ⟨silent, kept⟩ | ⟨read, -, tokens, lexed⟩
  · right
    rw [silent]
    exact ⟨List.forall_mem_nil _, kept ▸ inScript.after, kept ▸ inScript.phase⟩
  · rcases inScript.after.step inScript.phase reader.isForeign read with ⟨after, phase⟩ | ended
    · right
      have flat : ∀ token ∈ reader.tokensAt char, token.isFlat = true := fun token member =>
        after.flat token (List.mem_reverse.mp (tokens ▸ member))
      have next := lexed fun token member => notStartTag_of_isFlat (flat token member)
      refine ⟨flat, ?_, ?_⟩
      · rw [next]
        exact ⟨List.forall_mem_nil _, after.lastStart⟩
      · rw [next]
        exact phase
    · left
      rw [tokens]
      exact List.mem_reverse.mpr ended

/-- Without an end tag of its own a script lasts to the end of the page. -/
theorem InScript.tokensFrom (inScript : reader.InScript) (content : List Char) :
    .endTag "script" ∈ reader.tokensFrom content ∨
      ∃ tokens, (∀ token ∈ tokens, token.isFlat = true) ∧
        reader.tokensFrom content = tokens ++ [.finish] := by
  induction content generalizing reader with
  | nil =>
      have flat := (inScript.after.complete inScript.phase).flush
      refine .inr ⟨reader.lexer.complete.flush.output.reverse, ?_, List.reverse_cons⟩
      exact fun token member => flat token (List.mem_reverse.mp member)
  | cons char rest induction =>
      rw [Reader.tokensFrom]
      rcases inScript.step char with ended | ⟨flat, stays⟩
      · exact .inl (List.mem_append_left _ ended)
      · rcases induction stays with ended | ⟨tokens, restFlat, whole⟩
        · exact .inl (List.mem_append_right _ ended)
        · refine .inr ⟨reader.tokensAt char ++ tokens, ?_, ?_⟩
          · exact List.forall_mem_append.mpr ⟨flat, restFlat⟩
          · rw [whole, List.append_assoc]

end Reader

/-! ## The start tag -/

def scriptTag : Tag := ⟨"script", [], false⟩

namespace Builder

def inHeadScript (content : Content) (nodes : List Tree) : Builder :=
  { flowing true
      [.element root [.element ⟨1, .html, "head", []⟩ [.element ⟨2, .html, "script", []⟩ nodes]]]
      [⟨2, .html, "script", []⟩, ⟨1, .html, "head", []⟩, root] 3 with
    mode := .text
    returnMode := .inHead
    content }

def inBodyScript (framesetOk : Bool) (before : List Tree) (content : Content)
    (nodes : List Tree) : Builder :=
  { flowing framesetOk (bodyTrees (.element ⟨3, .html, "script", []⟩ nodes :: before))
      [⟨3, .html, "script", []⟩, Document.body, root] 4 with
    mode := .text
    returnMode := .inBody
    content }

/-- What has been built after the start tag of a script that follows the text at the beginning of a
page. The script is in the head of the page if no text is shown, and otherwise in the body, after
the text. -/
inductive AtScript : List Char → List Char → Builder → Prop where
  | head (content : Content) (contents : List (List Char)) :
      AtScript [] contents.reverse.flatten (inHeadScript content (contents.map .text))
  | body (framesetOk : Bool) (texts : List (List Char)) (content : Content)
      (contents : List (List Char)) :
      AtScript texts.reverse.flatten contents.reverse.flatten
        (inBodyScript framesetOk (texts.map .text) content (contents.map .text))

variable {text script : List Char} {builder : Builder}

theorem AtText.take_scriptTag (atText : AtText text builder) :
    AtScript text [] (builder.take (.startTag scriptTag)) ∧
      (builder.take (.startTag scriptTag)).content = .script .none := by
  cases atText with
  | blank => exact ⟨.head (.script .none) [], rfl⟩
  | shown framesetOk contents => exact ⟨.body framesetOk contents (.script .none) [], rfl⟩

/-- A flat token in a script adds to its text, wherever the script is. -/
theorem exists_take_inScript {token : Token} (flat : token.isFlat = true)
    (contents : List (List Char)) :
    ∃ more : List (List Char), more.reverse.flatten = contents.reverse.flatten ++ token.content ∧
      (∀ content, (inHeadScript content (contents.map .text)).take token =
        inHeadScript .markup (more.map .text)) ∧
      ∀ framesetOk before content,
        (inBodyScript framesetOk before content (contents.map .text)).take token =
          inBodyScript framesetOk before .markup (more.map .text) := by
  have nothing := (List.append_nil contents.reverse.flatten).symm
  cases token with
  | space content =>
      exact ⟨content :: contents, by simp [Token.content], fun _ => rfl, fun _ _ _ => rfl⟩
  | text content =>
      exact ⟨content :: contents, by simp [Token.content], fun _ => rfl, fun _ _ _ => rfl⟩
  | null => exact ⟨contents, nothing, fun _ => rfl, fun _ _ _ => rfl⟩
  | fault => exact ⟨contents, nothing, fun _ => rfl, fun _ _ _ => rfl⟩
  | _ => cases flat

theorem AtScript.take (atScript : AtScript text script builder) {token : Token}
    (flat : token.isFlat = true) :
    AtScript text (script ++ token.content) (builder.take token) := by
  cases atScript with
  | head content contents =>
      rcases exists_take_inScript flat contents with ⟨more, whole, taken, -⟩
      rw [← whole, taken]
      exact .head .markup more
  | body framesetOk texts content contents =>
      rcases exists_take_inScript flat contents with ⟨more, whole, -, taken⟩
      rw [← whole, taken]
      exact .body framesetOk texts .markup more

theorem AtScript.foldl_take (atScript : AtScript text script builder) {tokens : List Token}
    (flat : ∀ token ∈ tokens, token.isFlat = true) :
    AtScript text (script ++ tokens.flatMap Token.content)
      (tokens.foldl Builder.take builder) := by
  induction tokens generalizing script builder with
  | nil => simpa using atScript
  | cons token rest induction =>
      rw [List.forall_mem_cons] at flat
      have taken := induction (atScript.take flat.1) flat.2
      rwa [List.append_assoc] at taken

end Builder

namespace Reader

variable {reader : Reader} {pending : List Char} {lastStart : String}

/-- The name of a tag completes no token. -/
theorem tokensOver_tagName {name : List Char} (plain : ∀ char ∈ name, isPlainChar char = true)
    (before : List Char) (builder : Builder) (cursor : Cursor) :
    (within (.tagName false before) pending lastStart builder cursor).tokensOver name = [] := by
  induction name generalizing before cursor with
  | nil => rfl
  | cons char rest induction =>
      rw [List.forall_mem_cons] at plain
      have lexed : ∀ foreign, Lexer.step foreign char
          ⟨.tagName false before, pending, lastStart, []⟩ =
            ⟨.tagName false (char :: before), pending, lastStart, []⟩ :=
        fun _ => stepTagName_plain plain.1 false before _
      have silent :
          (within (.tagName false before) pending lastStart builder cursor).tokensAt char = [] := by
        rw [(step_of_isOrdinary (isOrdinary_of_isPlainChar plain.1) _).1]
        exact congrArg (List.reverse ∘ Lexer.output) (lexed _)
      rw [tokensOver, silent, step_within_plain plain.1 lexed, induction plain.2]
      rfl

theorem foldl_step_scriptName (opened : reader.lexer = ⟨.tagOpen, pending, lastStart, []⟩) :
    reader.tokensOver "script".toList = [] ∧ ∃ cursor, "script".toList.foldl step reader =
      within (.tagName false "script".toList.reverse) pending lastStart reader.builder cursor := by
  rcases reader with ⟨lexer, builder, cursor, skipsMark, skipsFeed⟩
  rcases (opened : lexer = _) with rfl
  have name : "script".toList = 's' :: "cript".toList := rfl
  have silent : tokensAt
      ⟨⟨.tagOpen, pending, lastStart, []⟩, builder, cursor, skipsMark, skipsFeed⟩ 's' = [] := rfl
  have begun : step ⟨⟨.tagOpen, pending, lastStart, []⟩, builder, cursor, skipsMark, skipsFeed⟩
      's' = within (.tagName false ['s']) pending lastStart builder (cursor.move 's').cursor := rfl
  have plain : ∀ char ∈ "cript".toList, isPlainChar char = true :=
    List.all_eq_true.mp (by decide +kernel)
  rw [name, tokensOver, silent, begun, tokensOver_tagName plain, List.foldl_cons, begun,
    foldl_step_collecting (.tagName false) plain fun char member _ before =>
      stepTagName_plain (plain char member) false before _]
  exact ⟨rfl, _, rfl⟩

theorem tokensAt_scriptTagEnd (builder : Builder) (cursor : Cursor) :
    (within (.tagName false "script".toList.reverse) pending lastStart builder cursor).tokensAt
      '>' = tokensBefore pending (.startTag scriptTag) := by
  rw [(step_of_isOrdinary (by decide : isOrdinary '>' = true) _).1]
  simp [within, Lexer.step, Lexer.stepTagName, Lexer.stepBetween, Lexer.emitTag, isSpace,
    Lexer.emit, Lexer.flush, Lexer.goTo, tokensBefore, scriptTag]

def textTokens (reader : Reader) : List Token :=
  reader.tokensAt '<' ++ Token.ofText (reader.step '<').lexer.pending.reverse

/-- The start tag of a script is the token after those of the text before it. -/
theorem InText.step_scriptTag (inText : reader.InText) :
    (∀ token ∈ reader.textTokens, token.isFlat = true) ∧
      reader.tokensOver (Node.startTag "script") = reader.textTokens ++ [.startTag scriptTag] ∧
      ((Node.startTag "script").foldl Reader.step reader).lexer = ⟨.content
        ((reader.textTokens.foldl Builder.take reader.builder).take
          (.startTag scriptTag)).content, [], "script", []⟩ := by
  rcases step_of_isOrdinary (by decide : isOrdinary '<' = true) reader with ⟨tokens, stepped⟩
  rcases inText.emitsFlat.step_bracket inText.phase reader.isForeign with ⟨flat, opened⟩
  have opening : ∃ pending lastStart,
      (reader.step '<').lexer = ⟨.tagOpen, pending, lastStart, []⟩ := by
    rw [stepped, lexer_takeOutput fun token member => notStartTag_of_isFlat (flat token member)]
    exact ⟨_, _, congrArg (Lexer.mk · _ _ _) opened⟩
  rcases opening with ⟨pending, lastStart, opening⟩
  rcases foldl_step_scriptName opening with ⟨silent, cursor, named⟩
  rw [textTokens, opening]
  refine ⟨?_, ?_, ?_⟩
  · rw [List.forall_mem_append]
    refine ⟨fun token member => ?_, Token.isFlat_of_mem_ofText⟩
    exact flat token (List.mem_reverse.mp (tokens ▸ member))
  · rw [Node.startTag, tokensOver, tokensOver_append, silent, named, List.nil_append, tokensOver,
      tokensOver, tokensAt_scriptTagEnd, tokensBefore, List.append_nil, List.append_assoc]
  · rw [Node.startTag, List.foldl_cons, List.foldl_append, named, List.foldl_cons,
      step_tagEnd false "script" (.startTag scriptTag) rfl rfl, takeOutput_tokensBefore,
      List.foldl_append, ← builder_step]
    rfl

end Reader

/-! ## The page -/

def Token.isStartTag : Token → Bool
  | .startTag _ => true
  | _ => false

def textBeforeTag (tokens : List Token) : List Char :=
  leadingText (tokens.takeWhile (!·.isStartTag))

def textAfterTag (tokens : List Token) : List Char :=
  (tokens.dropWhile (!·.isStartTag)).flatMap Token.content

theorem texts_of_startTag {front rest : List Token}
    (flat : ∀ token ∈ front, token.isFlat = true) (tag : Tag) :
    textBeforeTag (front ++ .startTag tag :: rest) = leadingText front ∧
      textAfterTag (front ++ .startTag tag :: rest) = rest.flatMap Token.content := by
  have passes : ∀ token ∈ front, (!token.isStartTag) = true := by
    intro token member
    have tokenFlat := flat token member
    cases token with
    | startTag tag => cases tokenFlat
    | _ => rfl
  rw [textBeforeTag, textAfterTag, List.takeWhile_append_of_pos passes,
    List.dropWhile_append_of_pos passes]
  constructor
  · simp [Token.isStartTag]
  · simp [Token.isStartTag, Token.content]

def textTokens (text : List Char) : List Token :=
  Reader.start.tokensOver text ++ (text.foldl Reader.step .start).textTokens

/-- A text and the start tag of a script at the beginning of a page. -/
theorem exists_opened_script {before : List Char} (free : '<' ∉ before) :
    (∀ token ∈ textTokens before, token.isFlat = true) ∧ ∃ reader : Reader,
      reader.lexer = ⟨.content (.script .none), [], "script", []⟩ ∧
      ∀ content, tokens (before ++ (Node.startTag "script" ++ content)) =
        textTokens before ++ .startTag scriptTag :: reader.tokensFrom content := by
  have begins : Reader.start.InText := ⟨rfl, rfl⟩
  rcases begins.foldl_step free with ⟨beforeFlat, inText⟩
  rcases inText.step_scriptTag with ⟨lateFlat, tagTokens, lexer⟩
  have flat : ∀ token ∈ textTokens before, token.isFlat = true :=
    List.forall_mem_append.mpr ⟨beforeFlat, lateFlat⟩
  have built : (before.foldl Reader.step .start).textTokens.foldl Builder.take
      (before.foldl Reader.step .start).builder =
        (textTokens before).foldl Builder.take .start := by
    rw [Reader.builder_foldl_step, textTokens, List.foldl_append]
    rfl
  rw [built, (Builder.atText_foldl_take flat).take_scriptTag.2] at lexer
  refine ⟨flat, _, lexer, fun content => ?_⟩
  rw [tokens, Reader.tokensFrom_append, Reader.tokensFrom_append, tagTokens, textTokens]
  simp

/-- A script after a text, on a page where no end tag of a script is read. -/
theorem exists_atScript {before content page : List Char} (free : '<' ∉ before)
    (whole : page = before ++ (Node.startTag "script" ++ content))
    (unended : .endTag "script" ∉ tokens page) :
    ∃ builder,
      Builder.AtScript (textBeforeTag (tokens page)) (textAfterTag (tokens page)) builder ∧
        read page = (builder.take .finish).trees := by
  rcases exists_opened_script free with ⟨flat, reader, lexer, pageTokens⟩
  have inScript : reader.InScript := by
    constructor <;> rw [lexer]
    · exact ⟨List.forall_mem_nil _, rfl⟩
    · rfl
  rw [whole, pageTokens content] at unended ⊢
  rcases inScript.tokensFrom content with ended | ⟨inner, innerFlat, contentTokens⟩
  · exact absurd (List.mem_append_right _ (List.mem_cons_of_mem _ ended)) unended
  · rcases @texts_of_startTag _ (inner ++ [.finish]) flat scriptTag with ⟨front, back⟩
    have finished : (inner ++ [Token.finish]).flatMap Token.content =
        inner.flatMap Token.content := by
      simp [Token.content]
    have ended := (Builder.atText_foldl_take flat).take_scriptTag.1.foldl_take innerFlat
    rw [List.nil_append, ← finished, ← front, ← back] at ended
    rw [contentTokens]
    refine ⟨_, ended, ?_⟩
    rw [read_eq_foldl_take, pageTokens, contentTokens, List.foldl_append, List.foldl_cons,
      List.foldl_append]
    rfl

end ChatMarkup.Document
