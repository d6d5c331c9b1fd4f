import ChatMarkup.Proofs.CaselessReading

/-!
Where completing a page minds the case of a tag name: where what looks like a tag is text, a comment
or a value, and where what looks like the end tag of raw text turns out to be text. A page that has
none of these is completed in the same way with its tag names in any case.
-/

namespace ChatMarkup.Document

/-! ## The lexer -/

namespace Lexer

def Phase.ignoresCase : Phase → Bool
  | .tagOpen => true
  | .endTagOpen => true
  | .tagName .. => true
  | .tag _ .between => true
  | .tag _ (.name _) => true
  | .tag _ (.afterName _) => true
  | .tag _ .afterValue => true
  | .tag _ .slash => true
  | .lessSlash _ => true
  | .lessName .. => true
  | _ => false

/-- What looked like an end tag in raw text and is text after all has a capital letter. -/
def Phase.hasCapital : Phase → Bool
  | .lessName _ name => name.any Char.isUpper
  | _ => false

/-- Only the name of what may be an end tag in raw text is held as it is written. -/
def Phase.lowered : Phase → Phase
  | .lessName kind name => .lessName kind (name.map Char.toLower)
  | phase => phase

def lowered (lexer : Lexer) : Lexer := { lexer with phase := lexer.phase.lowered }

def namesEndTag (char : Char) (lexer : Lexer) : Bool :=
  match lexer.phase with
  | .lessName _ name =>
    char.isAlpha || (String.ofList (name.reverse.map Char.toLower) == lexer.lastStart &&
      (isSpace char || char == '/' || char == '>'))
  | _ => true

/-- What becomes of a character depends on the case of names; `inName` says that it stands in a
name right after an opening bracket. -/
def mindsCase (inName : Bool) (char : Char) (lexer : Lexer) : Bool :=
  (inName && char.isUpper && !lexer.phase.ignoresCase) ||
    (lexer.phase.hasCapital && !lexer.namesEndTag char)

/-- Lexers that agree but for case are the same, or both hold a name. -/
theorem eq_or_lessName {left right : Lexer} (same : left.lowered = right.lowered) :
    left = right ∨ ∃ kind leftName rightName, left.phase = .lessName kind leftName ∧
      right = left.goTo (.lessName kind rightName) ∧
        leftName.map Char.toLower = rightName.map Char.toLower := by
  rcases left with ⟨leftPhase, pending, lastStart, output⟩
  rcases right with ⟨rightPhase, rightPending, rightLastStart, rightOutput⟩
  rw [lowered, lowered, Lexer.mk.injEq] at same
  rcases same with ⟨phases, rfl, rfl, rfl⟩
  cases leftPhase <;> cases rightPhase <;> simp [Phase.lowered] at phases
  case lessName.lessName =>
    rcases phases with ⟨rfl, names⟩
    exact .inr ⟨_, _, _, rfl, rfl, names⟩
  all_goals exact .inl (by simp [phases])

theorem map_toLower_eq_self {name : List Char} (small : name.any Char.isUpper = false) :
    name.map Char.toLower = name := by
  have small (letter : Char) (member : letter ∈ name) : letter.toLower = letter :=
    toLower_eq_self (by simpa using List.any_eq_false.mp small letter member)
  rw [List.map_congr_left small, List.map_id']

theorem eq_of_lowered_eq {left right : Lexer} (same : left.lowered = right.lowered)
    (leftSmall : left.phase.hasCapital = false) (rightSmall : right.phase.hasCapital = false) :
    left = right := by
  rcases eq_or_lessName same with equal | ⟨kind, leftName, rightName, leftPhase, rfl, names⟩
  · exact equal
  · rw [leftPhase] at leftSmall
    rw [map_toLower_eq_self leftSmall, map_toLower_eq_self rightSmall] at names
    rw [← names, ← leftPhase]
    rfl

theorem stepBetween_goTo (phase : Phase) (tag : OpenTag) (char : Char) (lexer : Lexer) :
    (lexer.goTo phase).stepBetween tag char = lexer.stepBetween tag char := by
  rw [stepBetween, stepBetween]
  split
  · rfl
  · split
    · rfl
    · split
      · rw [emitTag, emitTag]
        split <;> rfl
      · rfl

/-- A character leads lexers that agree but for case to such lexers. -/
theorem lowered_step {inName foreign : Bool} {char : Char} {left right : Lexer}
    (same : left.lowered = right.lowered) (leftNoCase : left.mindsCase inName char = false)
    (rightNoCase : right.mindsCase inName char = false) :
    (left.step foreign char).lowered = (right.step foreign char).lowered := by
  rcases eq_or_lessName same with rfl | ⟨kind, leftName, rightName, leftPhase, equal, names⟩
  · rfl
  · have rightPhase : right.phase = .lessName kind rightName := by rw [equal]; rfl
    have written : leftName.reverse.map Char.toLower = rightName.reverse.map Char.toLower := by
      rw [List.map_reverse, List.map_reverse, names]
    by_cases named : left.namesEndTag char = true
    · simp only [step, leftPhase, rightPhase, stepLessName, written]
      split
      · rw [equal]
        simp only [lowered, goTo, Phase.lowered, List.map_cons, names]
      · rename_i noLetter
        have ends : (String.ofList (rightName.reverse.map Char.toLower) = left.lastStart &&
            (isSpace char || char = '/' || char = '>')) = true := by
          simpa [namesEndTag, leftPhase, noLetter, written] using named
        have lastStart : right.lastStart = left.lastStart := by rw [equal]; rfl
        rw [lastStart, if_pos ends, if_pos ends, equal, stepBetween_goTo]
    · have rightNamed : right.namesEndTag char = left.namesEndTag char := by
        have lastStart : right.lastStart = left.lastStart := by rw [equal]; rfl
        simp only [namesEndTag, leftPhase, rightPhase, written, lastStart]
      rw [Bool.not_eq_true] at named
      rw [mindsCase, named, Bool.or_eq_false_iff, Bool.not_false, Bool.and_true] at leftNoCase
      rw [mindsCase, rightNamed, named, Bool.or_eq_false_iff, Bool.not_false,
        Bool.and_true] at rightNoCase
      rw [eq_of_lowered_eq same leftNoCase.2 rightNoCase.2]

/-- A line break ends a name whichever way it is written. -/
theorem mindsCase_lineFeed (inName : Bool) (lexer : Lexer) :
    lexer.mindsCase inName '\n' = lexer.mindsCase inName '\r' := by
  have names : lexer.namesEndTag '\n' = lexer.namesEndTag '\r' := by
    rw [namesEndTag, namesEndTag]
    cases lexer.phase <;> rfl
  rw [mindsCase, mindsCase, names]
  rfl

/-! ## Letters in either case -/

def Phase.afterLetter (letter : Char) : Phase → Phase
  | .tagOpen => .tagName false [nameChar letter]
  | .endTagOpen => .tagName true [nameChar letter]
  | .tagName isEnd name => .tagName isEnd (nameChar letter :: name)
  | .tag opened (.name name) => .tag opened (.name (nameChar letter :: name))
  | .tag opened (.afterName name) =>
    .tag (opened.addAttribute name []) (.name [nameChar letter])
  | .tag opened _ => .tag opened (.name [nameChar letter])
  | .lessSlash kind => .lessName kind [letter]
  | .lessName kind name => .lessName kind (letter :: name)
  | phase => phase

theorem step_letter {letter : Char} (alpha : letter.isAlpha = true) (foreign : Bool)
    {lexer : Lexer} (ignores : lexer.phase.ignoresCase = true) :
    lexer.step foreign letter = lexer.goTo (lexer.phase.afterLetter letter) := by
  have noSpace : isSpace letter = false :=
    forall_isAlpha (fun char => isSpace char = false) (by decide +kernel) alpha
  have ne {other : Char} (noLetter : other.isAlpha = false) : letter ≠ other :=
    ne_of_isAlpha alpha noLetter
  have notSlash := ne (by decide : '/'.isAlpha = false)
  have notBracket := ne (by decide : '>'.isAlpha = false)
  have tagName (isEnd : Bool) (name : List Char) : lexer.stepTagName isEnd name letter =
      lexer.goTo (.tagName isEnd (nameChar letter :: name)) := by
    simp [stepTagName, noSpace, notSlash, notBracket]
  have between (tag : OpenTag) : lexer.stepBetween tag letter =
      lexer.goTo (.tag tag (.name [nameChar letter])) := by
    simp [stepBetween, noSpace, notSlash, notBracket]
  cases phase : lexer.phase with
  | tagOpen =>
      simp [step, phase, stepTagOpen, alpha, tagName, Phase.afterLetter, notSlash,
        ne (by decide : '!'.isAlpha = false), ne (by decide : '?'.isAlpha = false)]
  | endTagOpen =>
      simp [step, phase, stepEndTagOpen, alpha, tagName, Phase.afterLetter, notBracket]
  | tagName isEnd name => simp [step, phase, tagName, Phase.afterLetter]
  | tag tag place =>
      rw [phase] at ignores
      cases place with
      | between => simp [step, phase, stepTag, between, Phase.afterLetter]
      | name name =>
          simp [step, phase, stepTag, noSpace, notSlash, notBracket, Phase.afterLetter,
            ne (by decide : '='.isAlpha = false)]
      | afterName name =>
          simp [step, phase, stepTag, noSpace, between, Phase.afterLetter,
            ne (by decide : '='.isAlpha = false)]
      | afterValue => simp [step, phase, stepTag, between, Phase.afterLetter]
      | slash => simp [step, phase, stepTag, notBracket, between, Phase.afterLetter]
      | beforeValue name => cases ignores
      | value name quote value => cases ignores
  | lessSlash kind => simp [step, phase, stepLessSlash, alpha, Phase.afterLetter]
  | lessName kind name => simp [step, phase, stepLessName, alpha, Phase.afterLetter]
  | _ =>
      rw [phase] at ignores
      cases ignores

theorem lowered_afterLetter (letter : Char) (phase : Phase) :
    (phase.afterLetter letter).lowered =
      (phase.lowered.afterLetter letter.toLower).lowered := by
  have name : nameChar letter.toLower = nameChar letter := by
    rw [nameChar, nameChar, toLower_toLower]
  cases phase with
  | tag opened place => cases place <;> simp [Phase.lowered, Phase.afterLetter, name]
  | _ =>
      simp only [Phase.lowered, Phase.afterLetter, name, List.map_cons, List.map_nil, toLower_toLower,
        map_toLower_map_toLower]

theorem ignoresCase_lowered (phase : Phase) : phase.lowered.ignoresCase = phase.ignoresCase := by
  cases phase <;> rfl

theorem eq_of_not_upper {leftLetter rightLetter : Char}
    (sameLetter : leftLetter.toLower = rightLetter.toLower) (left : leftLetter.isUpper = false)
    (right : rightLetter.isUpper = false) : leftLetter = rightLetter := by
  rw [← toLower_eq_self left, sameLetter, toLower_eq_self right]

/-- Letters that agree but for case lead lexers that agree but for case to such lexers. -/
theorem lowered_step_letter {leftLetter rightLetter : Char} (leftAlpha : leftLetter.isAlpha = true)
    (rightAlpha : rightLetter.isAlpha = true)
    (sameLetter : leftLetter.toLower = rightLetter.toLower) {foreign : Bool} {left right : Lexer}
    (same : left.lowered = right.lowered) (leftNoCase : left.mindsCase true leftLetter = false)
    (rightNoCase : right.mindsCase true rightLetter = false) :
    (left.step foreign leftLetter).lowered = (right.step foreign rightLetter).lowered := by
  have samePhase : left.phase.lowered = right.phase.lowered := congrArg Lexer.phase same
  have sameIgnores : left.phase.ignoresCase = right.phase.ignoresCase := by
    rw [← ignoresCase_lowered, samePhase, ignoresCase_lowered]
  by_cases ignores : left.phase.ignoresCase = true
  · have general {letter : Char} (alpha : letter.isAlpha = true) {lexer : Lexer}
        (ignores : lexer.phase.ignoresCase = true) :
        (lexer.step foreign letter).lowered =
          lexer.lowered.goTo (lexer.phase.lowered.afterLetter letter.toLower).lowered := by
      rw [step_letter alpha foreign ignores, ← lowered_afterLetter]
      rfl
    rw [general leftAlpha ignores, general rightAlpha (sameIgnores ▸ ignores), same, samePhase,
      sameLetter]
  · have lower {letter : Char} {lexer : Lexer} (minds : ¬lexer.phase.ignoresCase = true)
        (noCase : lexer.mindsCase true letter = false) : letter.isUpper = false := by
      rw [mindsCase, Bool.or_eq_false_iff] at noCase
      simpa [minds] using noCase.1
    rcases eq_of_not_upper sameLetter (lower ignores leftNoCase)
      (lower (sameIgnores ▸ ignores) rightNoCase) with rfl
    exact lowered_step same leftNoCase rightNoCase

end Lexer

/-! ## The whole page -/

namespace Reader

def lowered (reader : Reader) : Reader := { reader with lexer := reader.lexer.lowered }

theorem lowered_takeToken (token : Token) (reader : Reader) :
    (reader.takeToken token).lowered = reader.lowered.takeToken token := by
  cases token <;> rfl

theorem lowered_takeOutput (reader : Reader) :
    reader.takeOutput.lowered = reader.lowered.takeOutput := by
  have fold (tokens : List Token) (reader : Reader) :
      (tokens.foldl takeToken reader).lowered = tokens.foldl takeToken reader.lowered := by
    induction tokens generalizing reader with
    | nil => rfl
    | cons token rest induction =>
        rw [List.foldl_cons, induction, lowered_takeToken, List.foldl_cons]
  exact fold _ _

theorem lowered_lex {leftChar rightChar : Char} {left right : Reader}
    (same : left.lowered = right.lowered)
    (steps : ∀ foreign, (left.lexer.step foreign leftChar).lowered =
      (right.lexer.step foreign rightChar).lowered) :
    (left.lex leftChar).lowered = (right.lex rightChar).lowered := by
  rcases left with ⟨leftLexer, builder, cursor, skipsMark, skipsFeed⟩
  rcases right with ⟨rightLexer, rightBuilder, rightCursor, rightSkipsMark, rightSkipsFeed⟩
  rw [lowered, lowered, Reader.mk.injEq] at same
  rcases same with ⟨-, rfl, rfl, rfl, rfl⟩
  rw [lex, lex, lowered_takeOutput, lowered_takeOutput, lowered, lowered]
  dsimp only
  rw [isForeign, isForeign, steps]

theorem lowered_step {inName : Bool} {char : Char} {left right : Reader}
    (same : left.lowered = right.lowered) (leftNoCase : left.lexer.mindsCase inName char = false)
    (rightNoCase : right.lexer.mindsCase inName char = false) :
    (left.step char).lowered = (right.step char).lowered := by
  rcases left with ⟨leftLexer, builder, cursor, skipsMark, skipsFeed⟩
  rcases right with ⟨rightLexer, rightBuilder, rightCursor, rightSkipsMark, rightSkipsFeed⟩
  rw [lowered, lowered, Reader.mk.injEq] at same
  rcases same with ⟨lexers, rfl, rfl, rfl, rfl⟩
  have moved (next : Cursor) (mark feed : Bool) :
      (Reader.mk leftLexer builder next mark feed).lowered =
        (Reader.mk rightLexer builder next mark feed).lowered := by
    rw [lowered, lowered, Reader.mk.injEq]
    exact ⟨lexers, rfl, rfl, rfl, rfl⟩
  rw [step, step]
  dsimp only
  split
  · exact moved _ _ _
  · split
    · rename_i feed
      rw [feed, ← Lexer.mindsCase_lineFeed] at leftNoCase rightNoCase
      have broken := lowered_lex (moved (cursor.move char).cursor false false) fun foreign =>
        Lexer.lowered_step lexers leftNoCase rightNoCase
      exact congrArg (fun reader : Reader => { reader with skipsFeed := true }) broken
    · split
      · exact moved _ _ _
      · exact lowered_lex (moved _ _ _) fun foreign =>
          Lexer.lowered_step lexers leftNoCase rightNoCase

theorem step_letter {letter : Char} (alpha : letter.isAlpha = true) (reader : Reader) :
    reader.step letter =
      lex letter { reader with
        cursor := (reader.cursor.move 'a').cursor, skipsMark := false, skipsFeed := false } := by
  have move : reader.cursor.move letter = reader.cursor.move 'a' := by
    have size : letter.utf8Size = 'a'.utf8Size :=
      forall_isAlpha (fun char => char.utf8Size = 'a'.utf8Size) (by decide +kernel) alpha
    rw [Cursor.move, Cursor.move, size]
  have ne {other : Char} (noLetter : other.isAlpha = false) : letter ≠ other :=
    ne_of_isAlpha alpha noLetter
  simp [step, move, ne (by decide : byteOrderMark.isAlpha = false),
    ne (by decide : '\r'.isAlpha = false), ne (by decide : '\n'.isAlpha = false)]

theorem lowered_step_letter {leftLetter rightLetter : Char} (leftAlpha : leftLetter.isAlpha = true)
    (rightAlpha : rightLetter.isAlpha = true)
    (sameLetter : leftLetter.toLower = rightLetter.toLower) {left right : Reader}
    (same : left.lowered = right.lowered)
    (leftNoCase : left.lexer.mindsCase true leftLetter = false)
    (rightNoCase : right.lexer.mindsCase true rightLetter = false) :
    (left.step leftLetter).lowered = (right.step rightLetter).lowered := by
  rw [step_letter leftAlpha, step_letter rightAlpha]
  refine lowered_lex ?_ fun foreign => Lexer.lowered_step_letter leftAlpha rightAlpha sameLetter
    (congrArg Reader.lexer same) leftNoCase rightNoCase
  rcases left with ⟨leftLexer, builder, cursor, skipsMark, skipsFeed⟩
  rcases right with ⟨rightLexer, rightBuilder, rightCursor, rightSkipsMark, rightSkipsFeed⟩
  rw [lowered, lowered, Reader.mk.injEq] at same ⊢
  rcases same with ⟨lexers, rfl, rfl, rfl, rfl⟩
  exact ⟨lexers, rfl, rfl, rfl, rfl⟩

def mindsCaseFrom : Bool → Reader → List Char → Bool
  | _, reader, [] => reader.lexer.phase.hasCapital
  | inName, reader, char :: rest =>
    reader.lexer.mindsCase inName char ||
      mindsCaseFrom (inTagName inName char) (reader.step char) rest

theorem lowered_foldl_step {inName : Bool} {left right : List Char}
    (respelled : Respelled inName left right) {leftReader rightReader : Reader}
    (same : leftReader.lowered = rightReader.lowered)
    (leftNoCase : mindsCaseFrom inName leftReader left = false)
    (rightNoCase : mindsCaseFrom inName rightReader right = false) :
    left.foldl step leftReader = right.foldl step rightReader := by
  induction respelled generalizing leftReader rightReader with
  | nil =>
      have lexers := Lexer.eq_of_lowered_eq (congrArg Reader.lexer same) leftNoCase rightNoCase
      rcases leftReader with ⟨leftLexer, builder, cursor, skipsMark, skipsFeed⟩
      rcases rightReader with ⟨rightLexer, rightBuilder, rightCursor, rightSkipsMark, rightFeed⟩
      rw [lowered, lowered, Reader.mk.injEq] at same
      rcases same with ⟨-, rfl, rfl, rfl, rfl⟩
      exact congrArg (Reader.mk · builder cursor skipsMark skipsFeed) lexers
  | same char rest induction =>
      rw [mindsCaseFrom, Bool.or_eq_false_iff] at leftNoCase rightNoCase
      exact induction (lowered_step same leftNoCase.1 rightNoCase.1) leftNoCase.2 rightNoCase.2
  | @letter leftLetter rightLetter leftAlpha rightAlpha sameLetter left right rest induction =>
      rw [mindsCaseFrom, Bool.or_eq_false_iff, inTagName_of_isAlpha leftAlpha] at leftNoCase
      rw [mindsCaseFrom, Bool.or_eq_false_iff, inTagName_of_isAlpha rightAlpha] at rightNoCase
      exact induction (lowered_step_letter leftAlpha rightAlpha sameLetter same leftNoCase.1
        rightNoCase.1) leftNoCase.2 rightNoCase.2

end Reader

/-- Somewhere on the page the case of tag names makes a difference to completing it. -/
def mindsCase (source : List Char) : Bool := Reader.mindsCaseFrom false .start source

example : mindsCase "<P>a<P><TextArea>b</TEXTAREA><IMG Alt=''>".toList = false := by
  decide +kernel

example : mindsCase "<p>a<p><textarea><B></textarea>".toList = true := by decide +kernel

/-- Pages that differ in the case of tag names are the same when they are completed. -/
theorem completed_of_respelled {left right : List Char} (respelled : Respelled false left right)
    (leftNoCase : mindsCase left = false) (rightNoCase : mindsCase right = false) :
    completed left = completed right := by
  rw [completed, completed, read, read,
    Reader.lowered_foldl_step respelled rfl leftNoCase rightNoCase]

end ChatMarkup.Document
