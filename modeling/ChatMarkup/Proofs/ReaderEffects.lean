import ChatMarkup.Proofs.RoundTrip

/-!
What a character does to the tree that the forgiving reader is reading. A step adds one node, opens
an element, closes one, or leaves the tree as it is; which of these it does, and where the reader is
afterwards, depends on where the reader was and not on the tree.
-/

namespace ChatMarkup.Markup

def Phase.pending : Phase → List Char
  | .text content => content
  | _ => []

def Phase.tag? : Phase → Option String
  | .tagName letters => some (String.ofList letters.reverse)
  | .attributes name => some name
  | .attributeName name => some name
  | .attributeGap name => some name
  | .valueGap name => some name
  | .value name => some name
  | .quotedValue name _ => some name
  | .slash name => some name
  | _ => none

/-- The element that a closing bracket opens. In a quoted value it opens none. -/
def Phase.opens? : Phase → Option String
  | .quotedValue _ _ => none
  | phase => phase.tag?

theorem Phase.tag?_of_opens? {phase : Phase} {name : String} (opens : phase.opens? = some name) :
    phase.tag? = some name := by
  cases phase with
  | quotedValue => cases opens
  | _ => exact opens

/-- How a character leads to another phase, as far as start tags go: a tag is begun, the letters of
its name are read one by one, and then the reader stays in the tag or leaves it. -/
inductive Phase.Leads (char : Char) : Phase → Phase → Prop
  | bracket {phase : Phase} (isBracket : char = '<') : Leads char phase .opened
  | gap (isGap : isGap char = true) : Leads char .opened .opened
  | begins (named : isNameChar char = true) (noSlash : char ≠ '/') :
    Leads char .opened (.tagName [char])
  | letter {letters : List Char} (named : isNameChar char = true) :
    Leads char (.tagName letters) (.tagName (char :: letters))
  | stays {phase next : Phase} {name : String} (before : phase.tag? = some name)
    (after : next.tag? = some name) (named : ∀ letters, next ≠ .tagName letters) :
    Leads char phase next
  | outside {phase next : Phase} (noTag : next.tag? = none) (notOpened : next ≠ .opened) :
    Leads char phase next

inductive Effect where
  | keeps
  | adds (node : Node)
  | opens (name : String) (selfClosing : Bool)
  | closes (name : String)

namespace Reader

def apply (reader : Reader) : Effect → Reader
  | .keeps => reader
  | .adds node => reader.add node
  | .opens name selfClosing => reader.openElement name selfClosing
  | .closes name => reader.closeNamed name

/-- What a reader in a phase does at a character, whatever its tree is: it has an effect on the tree
and leads to another phase. -/
structure HasEffect (phase : Phase) (char : Char)
    (act : List OpenElement → List Node → Reader) (effect : Effect) (next : Phase) : Prop where
  acts (stack : List OpenElement) (top : List Node) :
    act stack top = (apply ⟨phase, stack, top⟩ effect).goTo next
  /-- Nodes without children are added to a tree, which are comments and the text that was read. -/
  adds (node : Node) (added : effect = .adds node) :
    node = .comment ∨ node = .text phase.pending.reverse
  /-- Only the bracket at the end of a start tag opens an element. -/
  opens (name : String) (selfClosing : Bool) (opened : effect = .opens name selfClosing) :
    char = '>' ∧ phase.opens? = some name
  /-- Only the bracket at the end of an end tag closes an element. -/
  closes (name : String) (closed : effect = .closes name) :
    char = '>' ∧ phase = .endTag name.toList.reverse
  endTag (name : List Char) (reads : next = .endTag name) :
    (char = '/' ∧ name = []) ∨ ∃ before, phase = .endTag before ∧ name = char :: before
  /-- The text gets longer by the character, or there is another text, which is what is left of a
  spoilt character, or none. -/
  pending : (effect = .keeps ∧ next.pending = char :: phase.pending) ∨
    ∀ other ∈ next.pending, other = '\uFFFD'
  leads : Phase.Leads char phase next

def Acts (phase : Phase) (char : Char) (act : List OpenElement → List Node → Reader) : Prop :=
  ∃ effect next, HasEffect phase char act effect next

variable {phase next : Phase} {char : Char}

/-! ## Acts that do one thing -/

theorem forall_mem_of_eq_nil {text : List Char} {property : Char → Prop} (empty : text = []) :
    ∀ char ∈ text, property char := by
  rw [empty]
  exact List.forall_mem_nil _

def Phase.isOutsideEndTag : Phase → Bool
  | .endTag _ => false
  | _ => true

/-- The tree stays as it is. -/
theorem acts_keeps
    (endTag : ∀ name, next = .endTag name →
      (char = '/' ∧ name = []) ∨ ∃ before, phase = .endTag before ∧ name = char :: before)
    (pending : next.pending = char :: phase.pending ∨ ∀ other ∈ next.pending, other = '\uFFFD')
    (leads : Phase.Leads char phase next) :
    Acts phase char fun stack top => goTo next ⟨phase, stack, top⟩ :=
  ⟨.keeps, next, {
    acts := fun _ _ => rfl
    adds := nofun
    opens := nofun
    closes := nofun
    endTag := endTag
    pending := pending.imp_left fun longer => ⟨rfl, longer⟩
    leads := leads }⟩

/-- The tree stays as it is, and no text and no end tag is being read afterwards. -/
theorem acts_goTo (resting : next.pending = []) (outside : Phase.isOutsideEndTag next = true)
    (leads : Phase.Leads char phase next) :
    Acts phase char fun stack top => goTo next ⟨phase, stack, top⟩ := by
  refine acts_keeps ?_ (.inr (forall_mem_of_eq_nil resting)) leads
  intro name reads
  rw [reads] at outside
  cases outside

/-- The character is one more of the text. -/
theorem acts_text {content : List Char} (resting : phase.pending = content) :
    Acts phase char fun stack top => goTo (.text (char :: content)) ⟨phase, stack, top⟩ :=
  acts_keeps nofun (.inl (congrArg (char :: ·) resting.symm)) (.outside rfl nofun)

theorem acts_opens {name : String} (bracket : char = '>') (inTag : phase.opens? = some name)
    (selfClosing : Bool) :
    Acts phase char fun stack top =>
      (openElement name selfClosing ⟨phase, stack, top⟩).goTo .between :=
  ⟨.opens name selfClosing, .between, {
    acts := fun _ _ => rfl
    adds := nofun
    opens := fun _ _ opened => (Effect.opens.inj opened).1 ▸ ⟨bracket, inTag⟩
    closes := nofun
    endTag := nofun
    pending := .inr (List.forall_mem_nil _)
    leads := .outside rfl nofun }⟩

theorem acts_adds {node : Node} (leaf : node = .comment ∨ node = .text phase.pending.reverse)
    (resting : next.pending = []) (outside : Phase.isOutsideEndTag next = true)
    (leads : Phase.Leads char phase next) :
    Acts phase char fun stack top => (add node ⟨phase, stack, top⟩).goTo next :=
  ⟨.adds node, next, {
    acts := fun _ _ => rfl
    adds := fun _ added => by
      rcases Effect.adds.inj added with rfl
      exact leaf
    opens := nofun
    closes := nofun
    endTag := fun name reads => by
      rw [reads] at outside
      cases outside
    pending := .inr (forall_mem_of_eq_nil resting)
    leads := leads }⟩

/-! ## Acts that several phases share -/

theorem acts_stepBetween (resting : phase.pending = []) :
    Acts phase char fun stack top => stepBetween char ⟨phase, stack, top⟩ := by
  unfold stepBetween
  split
  · rename_i bracket
    exact acts_goTo rfl rfl (.bracket bracket)
  · exact acts_text resting

theorem acts_stepAttributes {name : String} (inTag : phase.opens? = some name) :
    Acts phase char fun stack top => stepAttributes name char ⟨phase, stack, top⟩ := by
  unfold stepAttributes
  have named := Phase.tag?_of_opens? inTag
  repeat' split
  · rename_i bracket
    exact acts_opens bracket inTag false
  all_goals exact acts_goTo rfl rfl (.stays named rfl nofun)

theorem acts_stepDoctypeEnd :
    Acts phase char fun stack top => stepDoctypeEnd char ⟨phase, stack, top⟩ := by
  unfold stepDoctypeEnd
  split
  · exact acts_goTo rfl rfl (.outside rfl nofun)
  · exact acts_keeps nofun (.inr fun _ member => List.eq_of_mem_replicate member)
      (.outside rfl nofun)

theorem acts_stepValue {name : String} (inTag : phase.opens? = some name) :
    Acts phase char fun stack top => stepValue name char ⟨phase, stack, top⟩ := by
  unfold stepValue
  have named := Phase.tag?_of_opens? inTag
  repeat' split
  · exact acts_stepAttributes inTag
  all_goals exact acts_goTo rfl rfl (.stays named rfl nofun)

theorem acts_stepDeclarationGap (isDoctype : Bool) (resting : phase.pending = []) :
    Acts phase char fun stack top => stepDeclarationGap isDoctype char ⟨phase, stack, top⟩ := by
  unfold stepDeclarationGap
  repeat' split
  · exact acts_goTo rfl rfl (.outside rfl nofun)
  · exact acts_goTo rfl rfl (.outside rfl nofun)
  · exact acts_stepBetween resting

theorem acts_stepDeclarationWord (word : List Char) (resting : phase.pending = []) :
    Acts phase char fun stack top => stepDeclarationWord word char ⟨phase, stack, top⟩ := by
  unfold stepDeclarationWord
  split
  · exact acts_goTo rfl rfl (.outside rfl nofun)
  · exact acts_stepDeclarationGap _ resting

theorem acts_stepComment (progress : CommentEnd) :
    Acts phase char fun stack top => stepComment progress char ⟨phase, stack, top⟩ := by
  unfold stepComment
  split
  · exact acts_adds (.inl rfl) rfl rfl (.outside rfl nofun)
  all_goals exact acts_goTo rfl rfl (.outside rfl nofun)

/-! ## Steps -/

theorem acts_step (phase : Phase) (char : Char) :
    Acts phase char fun stack top => step ⟨phase, stack, top⟩ char := by
  cases phase with
  | between => exact acts_stepBetween rfl
  | text content =>
      dsimp only [step]
      split
      · rename_i bracket
        exact acts_adds (.inr rfl) rfl rfl (.bracket bracket)
      · exact acts_text rfl
  | opened =>
      dsimp only [step]
      repeat' split
      · rename_i gap
        exact @acts_goTo .opened .opened char rfl rfl (.gap gap)
      · rename_i slash
        exact acts_keeps (fun name reads => .inl ⟨slash, (Phase.endTag.inj reads).symm⟩)
          (.inr (List.forall_mem_nil _)) (.outside rfl nofun)
      · exact acts_goTo rfl rfl (.outside rfl nofun)
      · rename_i noSlash _ named
        exact acts_goTo rfl rfl (.begins named noSlash)
      · exact acts_stepBetween rfl
  | endTag name =>
      dsimp only [step]
      split
      · rename_i bracket
        exact ⟨.closes (String.ofList name.reverse), .between, {
          acts := fun _ _ => rfl
          adds := nofun
          opens := nofun
          closes := fun closed same => by
            rcases Effect.closes.inj same with rfl
            exact ⟨bracket, by rw [String.toList_ofList, List.reverse_reverse]⟩
          endTag := nofun
          pending := .inr (List.forall_mem_nil _)
          leads := .outside rfl nofun }⟩
      · exact acts_keeps (fun letters reads => .inr ⟨name, rfl, (Phase.endTag.inj reads).symm⟩)
          (.inr (List.forall_mem_nil _)) (.outside rfl nofun)
  | declaration =>
      dsimp only [step]
      repeat' split
      · exact acts_goTo rfl rfl (.outside rfl nofun)
      · exact acts_goTo rfl rfl (.outside rfl nofun)
      · exact acts_stepBetween rfl
  | declarationDash =>
      dsimp only [step]
      split
      · exact acts_goTo rfl rfl (.outside rfl nofun)
      · exact acts_stepDeclarationWord _ rfl
  | comment progress => exact acts_stepComment progress
  | declarationWord word => exact acts_stepDeclarationWord word rfl
  | declarationGap isDoctype => exact acts_stepDeclarationGap isDoctype rfl
  | doctypeWord =>
      dsimp only [step]
      repeat' split
      · exact @acts_goTo .doctypeWord .doctypeWord char rfl rfl (.outside rfl nofun)
      · exact acts_goTo rfl rfl (.outside rfl nofun)
      · exact acts_stepDoctypeEnd
  | doctypeGap =>
      dsimp only [step]
      split
      · exact @acts_goTo .doctypeGap .doctypeGap char rfl rfl (.outside rfl nofun)
      · exact acts_stepDoctypeEnd
  | tagName name =>
      dsimp only [step]
      split
      · rename_i named
        exact acts_goTo rfl rfl (.letter named)
      · exact acts_stepAttributes rfl
  | attributes name => exact acts_stepAttributes rfl
  | attributeName name =>
      dsimp only [step]
      repeat' split
      · exact @acts_goTo (.attributeName name) (.attributeName name) char rfl rfl
          (.stays rfl rfl nofun)
      · exact acts_goTo rfl rfl (.stays rfl rfl nofun)
      · exact acts_goTo rfl rfl (.stays rfl rfl nofun)
      · exact acts_stepAttributes rfl
  | attributeGap name =>
      dsimp only [step]
      repeat' split
      · exact @acts_goTo (.attributeGap name) (.attributeGap name) char rfl rfl
          (.stays rfl rfl nofun)
      · exact acts_goTo rfl rfl (.stays rfl rfl nofun)
      · exact acts_stepAttributes rfl
  | valueGap name =>
      dsimp only [step]
      repeat' split
      · exact @acts_goTo (.valueGap name) (.valueGap name) char rfl rfl (.stays rfl rfl nofun)
      · exact acts_goTo rfl rfl (.stays rfl rfl nofun)
      · exact acts_stepValue rfl
  | value name => exact acts_stepValue rfl
  | quotedValue name quote =>
      dsimp only [step]
      split
      · exact acts_goTo rfl rfl (.stays rfl rfl nofun)
      · exact @acts_goTo (.quotedValue name quote) (.quotedValue name quote) char rfl rfl
          (.stays rfl rfl nofun)
  | slash name =>
      dsimp only [step]
      split
      · rename_i bracket
        exact acts_opens bracket rfl true
      · exact acts_stepBetween rfl

end Reader

end ChatMarkup.Markup
