import ChatMarkup.Proofs.Respelling
import ChatMarkup.Proofs.RoundTrip

/-!
Where the forgiving reader minds the case of a tag name: at a start tag that never has content when
it is in lower case, at an end tag that agrees with the open element but for case, and where what
looks like a tag is read as text. A page that has none of these is read in the same way with its tag
names in any case.
-/

namespace ChatMarkup

open Text

theorem toLower_toLower (char : Char) : char.toLower.toLower = char.toLower := by
  by_cases upper : char.isUpper = true
  · have letter : char.isAlpha = true := Bool.or_eq_true_iff.mpr (.inl upper)
    exact forall_isAlpha (fun char => char.toLower.toLower = char.toLower) (by decide +kernel) letter
  · rw [toLower_eq_self (Bool.eq_false_iff.mpr upper), toLower_eq_self (Bool.eq_false_iff.mpr upper)]

theorem map_toLower_map_toLower (letters : List Char) :
    (letters.map Char.toLower).map Char.toLower = letters.map Char.toLower := by
  rw [List.map_map]
  exact List.map_congr_left fun letter _ => toLower_toLower letter

@[simp] theorem lowercaseName_lowercaseName (name : String) :
    lowercaseName (lowercaseName name) = lowercaseName name := by
  rw [lowercaseName, lowercaseName, String.toList_ofList, map_toLower_map_toLower]

theorem lowercaseName_ofList_reverse (letters : List Char) :
    lowercaseName (String.ofList letters.reverse) =
      String.ofList (letters.map Char.toLower).reverse := by
  rw [lowercaseName, String.toList_ofList, List.map_reverse]

/-! ## Trees with their names in lower case -/

namespace Node

mutual

def lowercaseNames : Node → Node
  | .element name children => .element (lowercaseName name) (lowercaseAll children)
  | .text content => .text content
  | .comment => .comment

def lowercaseAll : List Node → List Node
  | [] => []
  | node :: rest => node.lowercaseNames :: lowercaseAll rest

end

theorem lowercaseAll_eq_map (nodes : List Node) : lowercaseAll nodes = nodes.map lowercaseNames := by
  induction nodes with
  | nil => rfl
  | cons node rest induction => rw [lowercaseAll, induction, List.map_cons]

mutual

theorem lowercaseNames_lowercaseNames : (node : Node) →
    node.lowercaseNames.lowercaseNames = node.lowercaseNames
  | .element name children => by
      rw [lowercaseNames, lowercaseNames, lowercaseName_lowercaseName,
        lowercaseAll_lowercaseAll children]
  | .text _ => rfl
  | .comment => rfl

theorem lowercaseAll_lowercaseAll : (nodes : List Node) →
    lowercaseAll (lowercaseAll nodes) = lowercaseAll nodes
  | [] => rfl
  | node :: rest => by
      rw [lowercaseAll, lowercaseAll, lowercaseNames_lowercaseNames node,
        lowercaseAll_lowercaseAll rest]

end

/-! Neither the rule of an element nor the elements that it should have closed depend on the case
of names. -/

section Format

variable {options : Options}

theorem elementName_lowercaseName (anyCase : options.lowercaseTags = true) (name : String) :
    elementName options (lowercaseName name) = elementName options name := by
  rw [elementName, elementName, if_pos anyCase, if_pos anyCase, lowercaseName_lowercaseName]

theorem isItem_lowercaseNames (anyCase : options.lowercaseTags = true) (node : Node) :
    node.lowercaseNames.isItem options = node.isItem options := by
  cases node with
  | element name children =>
      rw [lowercaseNames, isItem, isItem, elementName_lowercaseName anyCase]
  | text content => rfl
  | comment => rfl

mutual

theorem format_lowercaseNames (anyCase : options.lowercaseTags = true) : (node : Node) →
    node.lowercaseNames.format options = node.format options
  | .text _ => rfl
  | .comment => rfl
  | .element name [] => by
      rw [lowercaseNames, lowercaseAll, format, format, elementRule, elementRule,
        elementName_lowercaseName anyCase]
  | .element name (child :: rest) => by
      have items := formatItems_lowercaseAll anyCase (child :: rest)
      have all := formatAll_lowercaseAll anyCase (child :: rest)
      rw [lowercaseAll] at items all
      rw [lowercaseNames, lowercaseAll, format, format, elementRule, elementRule,
        elementName_lowercaseName anyCase, items, all]

theorem formatAll_lowercaseAll (anyCase : options.lowercaseTags = true) : (nodes : List Node) →
    formatAll options (lowercaseAll nodes) = formatAll options nodes
  | [] => rfl
  | node :: rest => by
      rw [lowercaseAll, formatAll, formatAll, format_lowercaseNames anyCase node,
        formatAll_lowercaseAll anyCase rest]

theorem formatItems_lowercaseAll (anyCase : options.lowercaseTags = true) : (nodes : List Node) →
    formatItems options (lowercaseAll nodes) = formatItems options nodes
  | [] => rfl
  | node :: rest => by
      rw [lowercaseAll, formatItems, formatItems, isItem_lowercaseNames anyCase node,
        format_lowercaseNames anyCase node, formatItems_lowercaseAll anyCase rest]

end

end Format

theorem misnestedIn_lowercaseNames (parent : String) (node : Node) :
    Markup.misnestedIn (lowercaseName parent) node.lowercaseNames =
      Markup.misnestedIn parent node := by
  cases node with
  | element name children =>
      rw [lowercaseNames, Markup.misnestedIn, Markup.misnestedIn, lowercaseName_lowercaseName,
        lowercaseName_lowercaseName]
  | text content => rfl
  | comment => rfl

mutual

theorem isMisnested_lowercaseNames : (node : Node) →
    node.lowercaseNames.isMisnested = node.isMisnested
  | .element name children => by
      have direct : (lowercaseAll children).any (Markup.misnestedIn (lowercaseName name)) =
          children.any (Markup.misnestedIn name) := by
        rw [lowercaseAll_eq_map, List.any_map]
        exact congrArg children.any (funext (misnestedIn_lowercaseNames name))
      rw [lowercaseNames, isMisnested, isMisnested, direct, areMisnested_lowercaseAll children]
  | .text _ => rfl
  | .comment => rfl

theorem areMisnested_lowercaseAll : (nodes : List Node) →
    areMisnested (lowercaseAll nodes) = areMisnested nodes
  | [] => rfl
  | node :: rest => by
      rw [lowercaseAll, areMisnested, areMisnested, isMisnested_lowercaseNames node,
        areMisnested_lowercaseAll rest]

end

end Node

/-! ## Readers with their names in lower case -/

namespace Markup

open Node

def Phase.lowered : Phase → Phase
  | .endTag name => .endTag (name.map Char.toLower)
  | .tagName name => .tagName (name.map Char.toLower)
  | .attributes name => .attributes (lowercaseName name)
  | .attributeName name => .attributeName (lowercaseName name)
  | .attributeGap name => .attributeGap (lowercaseName name)
  | .valueGap name => .valueGap (lowercaseName name)
  | .value name => .value (lowercaseName name)
  | .quotedValue name quote => .quotedValue (lowercaseName name) quote
  | .slash name => .slash (lowercaseName name)
  | phase => phase

def Phase.ignoresCase : Phase → Bool
  | .opened => true
  | .endTag _ => true
  | .tagName _ => true
  | .attributes _ => true
  | .attributeName _ => true
  | .attributeGap _ => true
  | .valueGap _ => true
  | .value _ => true
  | .quotedValue _ quote => !quote.isAlpha
  | .comment _ => true
  | _ => false

def OpenElement.lowered (element : OpenElement) : OpenElement :=
  ⟨lowercaseName element.name, lowercaseAll element.children⟩

namespace Reader

def lowered (reader : Reader) : Reader :=
  ⟨reader.phase.lowered, reader.stack.map OpenElement.lowered, lowercaseAll reader.top⟩

/-- The innermost open element has content only because of its case. -/
def opensByCase (reader : Reader) : Bool :=
  reader.stack.head?.any fun element => contentless.contains (lowercaseName element.name)

/-- An end tag with this name does not close the innermost open element, because of its case. -/
def missesByCase (name : String) (reader : Reader) : Bool :=
  reader.stack.head?.any fun element =>
    element.name != name && lowercaseName element.name == lowercaseName name

/-- What becomes of a character depends on the case of names; `inName` says that it stands in a
name right after an opening bracket. -/
def mindsCase (inName : Bool) (char : Char) (reader : Reader) : Bool :=
  (inName && char.isUpper && !reader.phase.ignoresCase) || (reader.step char).opensByCase ||
    match reader.phase with
    | .endTag name => char == '>' && reader.missesByCase (String.ofList name.reverse)
    | _ => false

def mindsCaseFrom : Bool → Reader → List Char → Bool
  | _, _, [] => false
  | inName, reader, char :: rest =>
    reader.mindsCase inName char || mindsCaseFrom (inTagName inName char) (reader.step char) rest

/-! ## Building the tree -/

theorem lowered_goTo (phase : Phase) (reader : Reader) :
    (reader.goTo phase).lowered = reader.lowered.goTo phase.lowered := rfl

theorem lowered_add (node : Node) (reader : Reader) :
    (reader.add node).lowered = reader.lowered.add node.lowercaseNames := by
  rcases reader with ⟨phase, stack, top⟩
  cases stack with
  | nil => rfl
  | cons element outer => rfl

theorem lowercaseNames_toNode (element : OpenElement) (inner : List Node) :
    (element.toNode inner).lowercaseNames = element.lowered.toNode (lowercaseAll inner) := by
  rw [OpenElement.toNode, OpenElement.toNode, lowercaseNames, OpenElement.lowered]
  simp only [lowercaseAll_eq_map, List.map_reverse, List.map_append]

theorem lowered_close (reader : Reader) : reader.close.lowered = reader.lowered.close := by
  rcases reader with ⟨phase, stack, top⟩
  cases stack with
  | nil => rfl
  | cons element outer =>
      have node := lowercaseNames_toNode element []
      rw [close, lowered_add, node]
      rfl

/-- An end tag closes the same element whatever the case of the names. -/
theorem lowered_closeNamed {name : String} {reader : Reader}
    (closes : reader.missesByCase name = false) :
    (reader.closeNamed name).lowered = reader.lowered.closeNamed (lowercaseName name) := by
  rcases reader with ⟨phase, stack, top⟩
  cases stack with
  | nil => rfl
  | cons element outer =>
      have same : element.name = name ↔ lowercaseName element.name = lowercaseName name := by
        refine ⟨fun equal => by rw [equal], fun lower => ?_⟩
        simpa [missesByCase, lower] using closes
      generalize whole : Reader.mk phase (element :: outer) top = reader
      have innermost : reader.stack = element :: outer := by rw [← whole]
      have lowerInnermost : reader.lowered.stack = element.lowered :: outer.map .lowered := by
        rw [lowered, innermost, List.map_cons]
      rw [closeNamed, closeNamed, innermost, lowerInnermost]
      dsimp only
      by_cases named : element.name = name
      · rw [if_pos named, lowered_close]
        exact (if_pos (same.mp named)).symm
      · rw [if_neg named]
        exact (if_neg fun lower => named (same.mpr lower)).symm

theorem lowercaseName_of_contentless {name : String} (listed : contentless.contains name = true) :
    lowercaseName name = name := by
  have table : ∀ name ∈ contentless, lowercaseName name = name := by decide +kernel
  exact table name (List.contains_iff_mem.mp listed)

/-- A start tag opens its element whatever the case of the name. -/
theorem lowered_openElement {name : String} {selfClosing : Bool} {reader : Reader}
    (opens : (reader.openElement name selfClosing).opensByCase = false) :
    (reader.openElement name selfClosing).lowered =
      reader.lowered.openElement (lowercaseName name) selfClosing := by
  rw [openElement] at opens ⊢
  rw [openElement]
  by_cases listed : contentless.contains name = true
  · rw [lowercaseName_of_contentless listed, listed, Bool.or_true, if_pos rfl, if_pos rfl,
      lowered_add, lowercaseNames, lowercaseName_of_contentless listed, lowercaseAll]
  · rw [Bool.not_eq_true] at listed
    rw [listed, Bool.or_false] at opens ⊢
    split
    · rename_i closed
      rw [lowered_add, closed, Bool.true_or, if_pos rfl, lowercaseNames, lowercaseAll]
    · rename_i closed
      rw [if_neg closed] at opens
      have lower : contentless.contains (lowercaseName name) = false := opens
      rw [lower, Bool.or_false, if_neg closed]
      rfl

/-! ## Reading a character -/

theorem lowered_lowered (reader : Reader) : reader.lowered.lowered = reader.lowered := by
  have phase : reader.phase.lowered.lowered = reader.phase.lowered := by
    cases reader.phase <;>
      simp only [Phase.lowered, map_toLower_map_toLower, lowercaseName_lowercaseName]
  have stack : (reader.stack.map OpenElement.lowered).map OpenElement.lowered =
      reader.stack.map OpenElement.lowered := by
    simp [Function.comp_def, OpenElement.lowered, lowercaseAll_lowercaseAll]
  simp only [lowered, phase, stack, lowercaseAll_lowercaseAll]

theorem lowered_stepBetween (char : Char) (reader : Reader) :
    (reader.stepBetween char).lowered = reader.lowered.stepBetween char := by
  rw [stepBetween, stepBetween]
  split <;> rfl

/-- A choice that does not look at names leads to the same in either case. -/
theorem lowered_ite {test : Prop} [Decidable test] {yes no lowerYes lowerNo : Reader}
    (opens : (if test then yes else no).opensByCase = false)
    (agree : yes.opensByCase = false → yes.lowered = lowerYes)
    (differ : no.opensByCase = false → no.lowered = lowerNo) :
    (if test then yes else no).lowered = if test then lowerYes else lowerNo := by
  by_cases holds : test
  · simp only [if_pos holds] at opens ⊢
    exact agree opens
  · simp only [if_neg holds] at opens ⊢
    exact differ opens

theorem lowered_stepAttributes {name : String} {char : Char} {reader : Reader}
    (opens : (reader.stepAttributes name char).opensByCase = false) :
    (reader.stepAttributes name char).lowered =
      reader.lowered.stepAttributes (lowercaseName name) char := by
  refine lowered_ite opens (fun opens => ?_) fun opens => ?_
  · rw [lowered_goTo, lowered_openElement opens]
    rfl
  · exact lowered_ite opens (fun _ => rfl) fun opens => lowered_ite opens (fun _ => rfl) fun _ => rfl

theorem lowered_stepValue {name : String} {char : Char} {reader : Reader}
    (opens : (reader.stepValue name char).opensByCase = false) :
    (reader.stepValue name char).lowered =
      reader.lowered.stepValue (lowercaseName name) char :=
  lowered_ite opens lowered_stepAttributes fun opens =>
    lowered_ite opens (fun _ => rfl) fun _ => rfl

theorem lowered_stepDoctypeEnd (char : Char) (reader : Reader) :
    (reader.stepDoctypeEnd char).lowered = reader.lowered.stepDoctypeEnd char := by
  rw [stepDoctypeEnd, stepDoctypeEnd]
  split <;> rfl

theorem lowered_stepDeclarationGap (isDoctype : Bool) (char : Char) (reader : Reader) :
    (reader.stepDeclarationGap isDoctype char).lowered =
      reader.lowered.stepDeclarationGap isDoctype char := by
  rw [stepDeclarationGap, stepDeclarationGap]
  split
  · rfl
  · split
    · rfl
    · exact lowered_stepBetween char reader

theorem lowered_stepDeclarationWord (word : List Char) (char : Char) (reader : Reader) :
    (reader.stepDeclarationWord word char).lowered =
      reader.lowered.stepDeclarationWord word char := by
  rw [stepDeclarationWord, stepDeclarationWord]
  split
  · rfl
  · exact lowered_stepDeclarationGap _ char reader

theorem lowered_stepComment (progress : CommentEnd) (char : Char) (reader : Reader) :
    (reader.stepComment progress char).lowered = reader.lowered.stepComment progress char := by
  unfold stepComment
  split
  · rw [lowered_goTo, lowered_add]
    rfl
  all_goals rfl

theorem phase_lowered {reader : Reader} {phase : Phase} (there : reader.phase = phase) :
    reader.lowered.phase = phase.lowered := by
  rw [← there, lowered]

/-- A character leads to the same state, but for the case of names, from states that agree but for
the case of names. -/
theorem lowered_step {inName : Bool} {char : Char} {reader : Reader}
    (noCase : reader.mindsCase inName char = false) :
    (reader.step char).lowered = (reader.lowered.step char).lowered := by
  rw [mindsCase, Bool.or_eq_false_iff, Bool.or_eq_false_iff] at noCase
  rcases noCase with ⟨⟨-, opens⟩, closes⟩
  -- Only in the name of a tag is there a letter to be put in lower case after the step.
  have agree {after : Reader} (same : (reader.step char).lowered = after) :
      (reader.step char).lowered = after.lowered := by
    rw [← same, lowered_lowered]
  cases phase : reader.phase with
  | between =>
      refine agree ?_
      simp only [step, phase, phase_lowered phase, Phase.lowered]
      exact lowered_stepBetween char reader
  | text content =>
      refine agree ?_
      simp only [step, phase, phase_lowered phase, Phase.lowered]
      split
      · rw [lowered_goTo, lowered_add]
        rfl
      · rfl
  | opened =>
      simp only [step, phase, phase_lowered phase, Phase.lowered]
      split
      · exact (lowered_lowered reader).symm
      split
      · exact (lowered_lowered _).symm
      split
      · exact (lowered_lowered _).symm
      split
      · simp only [lowered_goTo, lowered_lowered]
      · rw [← lowered_stepBetween, lowered_lowered]
  | endTag name =>
      simp only [phase] at closes
      simp only [step, phase, phase_lowered phase, Phase.lowered]
      split
      · rename_i bracket
        rw [bracket, beq_self_eq_true, Bool.true_and] at closes
        rw [← lowercaseName_ofList_reverse, lowered_goTo, lowered_goTo, ← lowered_closeNamed closes,
          lowered_lowered]
      · simp only [lowered_goTo, lowered_lowered, Phase.lowered, List.map_cons,
          map_toLower_map_toLower]
  | declaration =>
      refine agree ?_
      simp only [step, phase, phase_lowered phase, Phase.lowered]
      split
      · rfl
      split
      · rfl
      · exact lowered_stepBetween char reader
  | declarationDash =>
      refine agree ?_
      simp only [step, phase, phase_lowered phase, Phase.lowered]
      split
      · rfl
      · exact lowered_stepDeclarationWord _ char reader
  | comment progress =>
      refine agree ?_
      simp only [step, phase, phase_lowered phase, Phase.lowered]
      exact lowered_stepComment progress char reader
  | declarationWord word =>
      refine agree ?_
      simp only [step, phase, phase_lowered phase, Phase.lowered]
      exact lowered_stepDeclarationWord word char reader
  | declarationGap isDoctype =>
      refine agree ?_
      simp only [step, phase, phase_lowered phase, Phase.lowered]
      exact lowered_stepDeclarationGap isDoctype char reader
  | doctypeWord =>
      refine agree ?_
      simp only [step, phase, phase_lowered phase, Phase.lowered]
      split
      · rfl
      split
      · rfl
      · exact lowered_stepDoctypeEnd char reader
  | doctypeGap =>
      refine agree ?_
      simp only [step, phase, phase_lowered phase, Phase.lowered]
      split
      · rfl
      · exact lowered_stepDoctypeEnd char reader
  | tagName name =>
      simp only [step, phase] at opens
      simp only [step, phase, phase_lowered phase, Phase.lowered]
      split
      · simp only [lowered_goTo, lowered_lowered, Phase.lowered, List.map_cons,
          map_toLower_map_toLower]
      · rename_i ended
        rw [if_neg ended] at opens
        rw [← lowercaseName_ofList_reverse, ← lowered_stepAttributes opens, lowered_lowered]
  | attributes name =>
      refine agree ?_
      simp only [step, phase] at opens
      simp only [step, phase, phase_lowered phase, Phase.lowered]
      exact lowered_stepAttributes opens
  | attributeName name =>
      refine agree ?_
      simp only [step, phase] at opens
      simp only [step, phase, phase_lowered phase, Phase.lowered]
      refine lowered_ite opens (fun _ => rfl) fun opens => ?_
      refine lowered_ite opens (fun _ => rfl) fun opens => ?_
      exact lowered_ite opens (fun _ => rfl) lowered_stepAttributes
  | attributeGap name =>
      refine agree ?_
      simp only [step, phase] at opens
      simp only [step, phase, phase_lowered phase, Phase.lowered]
      refine lowered_ite opens (fun _ => rfl) fun opens => ?_
      exact lowered_ite opens (fun _ => rfl) lowered_stepAttributes
  | valueGap name =>
      refine agree ?_
      simp only [step, phase] at opens
      simp only [step, phase, phase_lowered phase, Phase.lowered]
      refine lowered_ite opens (fun _ => rfl) fun opens => ?_
      exact lowered_ite opens (fun _ => rfl) lowered_stepValue
  | value name =>
      refine agree ?_
      simp only [step, phase] at opens
      simp only [step, phase, phase_lowered phase, Phase.lowered]
      exact lowered_stepValue opens
  | quotedValue name quote =>
      refine agree ?_
      simp only [step, phase, phase_lowered phase, Phase.lowered]
      split <;> rfl
  | slash name =>
      refine agree ?_
      simp only [step, phase] at opens
      simp only [step, phase, phase_lowered phase, Phase.lowered]
      refine lowered_ite opens (fun opens => ?_) fun _ => lowered_stepBetween char reader
      rw [lowered_goTo, lowered_openElement opens]
      rfl

/-! ## Letters in either case -/

def Phase.afterLetter (letter : Char) : Phase → Phase
  | .opened => .tagName [letter]
  | .endTag name => .endTag (letter :: name)
  | .tagName name => .tagName (letter :: name)
  | .attributes name => .attributeName name
  | .attributeGap name => .attributeName name
  | .valueGap name => .value name
  | .comment _ => .comment .far
  | phase => phase

theorem isGap_of_isAlpha {char : Char} (letter : char.isAlpha = true) : isGap char = false :=
  forall_isAlpha (fun char => isGap char = false) (by decide +kernel) letter

theorem step_letter {letter : Char} (alpha : letter.isAlpha = true) {reader : Reader}
    (ignores : reader.phase.ignoresCase = true) :
    reader.step letter = reader.goTo (Phase.afterLetter letter reader.phase) := by
  have named := isNameChar_of_isAlpha alpha
  have noGap := isGap_of_isAlpha alpha
  have ne {other : Char} (noLetter : other.isAlpha = false) : letter ≠ other :=
    ne_of_isAlpha alpha noLetter
  have attributes (name : String) : reader.stepAttributes name letter =
      reader.goTo (.attributeName name) := by
    rw [stepAttributes, if_neg (ne (by decide)), if_neg (ne (by decide)), if_pos named]
  have value (name : String) : reader.stepValue name letter = reader.goTo (.value name) := by
    rw [stepValue, if_neg (ne (by decide)), noGap, if_neg Bool.false_ne_true]
  cases phase : reader.phase with
  | opened =>
      simp [step, phase, noGap, named, Phase.afterLetter, ne (by decide : '/'.isAlpha = false),
        ne (by decide : '!'.isAlpha = false)]
  | endTag name => simp [step, phase, Phase.afterLetter, ne (by decide : '>'.isAlpha = false)]
  | tagName name => simp [step, phase, named, Phase.afterLetter]
  | attributes name => simp [step, phase, attributes, Phase.afterLetter]
  | attributeName name =>
      simp [step, phase, named, Phase.afterLetter, goTo_eq_self phase]
  | attributeGap name =>
      simp [step, phase, noGap, attributes, Phase.afterLetter, ne (by decide : '='.isAlpha = false)]
  | valueGap name =>
      simp [step, phase, noGap, value, Phase.afterLetter, ne (by decide : '"'.isAlpha = false),
        ne (by decide : '\''.isAlpha = false)]
  | value name => simp [step, phase, value, Phase.afterLetter]
  | quotedValue name quote =>
      rw [phase, Phase.ignoresCase, Bool.not_eq_true'] at ignores
      simp [step, phase, Phase.afterLetter, ne ignores, goTo_eq_self phase]
  | comment progress =>
      have comment : reader.stepComment progress letter = reader.goTo (.comment .far) := by
        unfold stepComment
        split
        · exact absurd rfl (ne (by decide : '>'.isAlpha = false))
        · exact absurd rfl (ne (by decide : '-'.isAlpha = false))
        · exact absurd rfl (ne (by decide : '-'.isAlpha = false))
        · rfl
      simp only [step, phase, comment, Phase.afterLetter]
  | _ =>
      rw [phase] at ignores
      cases ignores

theorem toLower_isAlpha {char : Char} (letter : char.isAlpha = true) :
    char.toLower.isAlpha = true :=
  forall_isAlpha (fun char => char.toLower.isAlpha = true) (by decide +kernel) letter

/-- In a tag name a letter leads to the same state as in lower case. -/
theorem lowered_step_letter {letter : Char} (alpha : letter.isAlpha = true) {reader : Reader}
    (noCase : reader.mindsCase true letter = false) :
    (reader.step letter).lowered = (reader.lowered.step letter.toLower).lowered := by
  by_cases upper : letter.isUpper = true
  · rw [mindsCase, Bool.or_eq_false_iff, Bool.or_eq_false_iff, upper] at noCase
    have ignores : reader.phase.ignoresCase = true := by simpa using noCase.1.1
    have ignoresLowered : reader.lowered.phase.ignoresCase = true := by
      rw [lowered]
      cases phase : reader.phase <;> rw [phase] at ignores <;> exact ignores
    have phases : (Phase.afterLetter letter reader.phase).lowered =
        (Phase.afterLetter letter.toLower reader.lowered.phase).lowered := by
      rw [lowered]
      cases reader.phase <;>
        simp only [Phase.afterLetter, Phase.lowered, List.map_cons, List.map_nil, toLower_toLower,
          map_toLower_map_toLower, lowercaseName_lowercaseName]
    rw [step_letter alpha ignores, step_letter (toLower_isAlpha alpha) ignoresLowered, lowered_goTo,
      lowered_goTo, phases, lowered_lowered]
  · rw [toLower_eq_self (Bool.eq_false_iff.mpr upper)]
    exact lowered_step noCase

/-! ## Whole pages -/

theorem lowered_foldl_step {inName : Bool} {left right : List Char}
    (respelled : Respelled inName left right) {leftReader rightReader : Reader}
    (same : leftReader.lowered = rightReader.lowered)
    (leftNoCase : mindsCaseFrom inName leftReader left = false)
    (rightNoCase : mindsCaseFrom inName rightReader right = false) :
    (left.foldl step leftReader).lowered = (right.foldl step rightReader).lowered := by
  induction respelled generalizing leftReader rightReader with
  | nil => exact same
  | same char rest induction =>
      rw [mindsCaseFrom, Bool.or_eq_false_iff] at leftNoCase rightNoCase
      refine induction ?_ leftNoCase.2 rightNoCase.2
      rw [lowered_step leftNoCase.1, lowered_step rightNoCase.1, same]
  | @letter leftLetter rightLetter leftAlpha rightAlpha sameLetter left right rest induction =>
      rw [mindsCaseFrom, Bool.or_eq_false_iff, inTagName_of_isAlpha leftAlpha] at leftNoCase
      rw [mindsCaseFrom, Bool.or_eq_false_iff, inTagName_of_isAlpha rightAlpha] at rightNoCase
      refine induction ?_ leftNoCase.2 rightNoCase.2
      rw [lowered_step_letter leftAlpha leftNoCase.1, lowered_step_letter rightAlpha rightNoCase.1,
        same, sameLetter]

theorem lowered_finish (reader : Reader) : reader.finish.lowered = reader.lowered.finish := by
  rw [finish, finish]
  cases phase : reader.phase with
  | text content =>
      simp only [phase_lowered phase, Phase.lowered, lowered_add, lowercaseNames]
  | comment progress =>
      simp only [phase_lowered phase, Phase.lowered, lowered_add, lowercaseNames]
  | _ => simp only [phase_lowered phase, Phase.lowered]

theorem lowercaseAll_nodes (reader : Reader) :
    lowercaseAll reader.nodes = reader.lowered.nodes := by
  have nested (stack : List OpenElement) (inner : List Node) :
      lowercaseAll (stack.foldl (fun inner element => [element.toNode inner]) inner) =
        (stack.map OpenElement.lowered).foldl (fun inner element => [element.toNode inner])
          (lowercaseAll inner) := by
    induction stack generalizing inner with
    | nil => rfl
    | cons element outer induction =>
        rw [List.foldl_cons, induction, List.map_cons, List.foldl_cons, lowercaseAll, lowercaseAll,
          lowercaseNames_toNode]
  rw [nodes, nodes, lowercaseAll_eq_map, List.map_reverse, List.map_append, ← lowercaseAll_eq_map,
    ← lowercaseAll_eq_map, nested]
  rfl

end Reader

/-- Somewhere on the page the case of tag names makes a difference to the reader. -/
def mindsCase (source : List Char) : Bool := Reader.mindsCaseFrom false .start source

example : mindsCase "a<BR>b".toList = true := by decide +kernel

example : mindsCase "<P Class=\"<A>\">a<Ul><LI>b</P>".toList = false := by decide +kernel

/-- Pages that differ in the case of tag names have the same nodes but for the case of names. -/
theorem lowercaseAll_read {left right : List Char} (respelled : Respelled false left right)
    (leftNoCase : mindsCase left = false) (rightNoCase : mindsCase right = false) :
    lowercaseAll (read left) = lowercaseAll (read right) := by
  rw [read, read, Reader.lowercaseAll_nodes, Reader.lowercaseAll_nodes, Reader.lowered_finish,
    Reader.lowered_finish, Reader.lowered_foldl_step respelled rfl leftNoCase rightNoCase]

end Markup

end ChatMarkup
