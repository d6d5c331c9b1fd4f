import ChatMarkup.Proofs.CutElements
import ChatMarkup.Proofs.StrayTags

/-!
The states of a builder between tokens: its mode belongs to the latest region. What the rules of the
head of a page do to such a builder leaves it in such a state.
-/

namespace ChatMarkup.Document

/-! ## Choosing a rule -/

theorem choose_induction {α : Type} {motive : α → Prop} {cases : List (List String × α)}
    {otherwise : α} {name : String}
    (chosen : ∀ entry ∈ cases, name ∈ entry.1 → motive entry.2)
    (unruled : name ∉ cases.flatMap Prod.fst → motive otherwise) :
    motive (choose cases otherwise name) := by
  rw [choose]
  split
  · rename_i entry found
    exact chosen entry (List.mem_of_find?_eq_some found)
      (List.contains_iff_mem.mp (by simpa using List.find?_some found))
  · rename_i none
    apply unruled
    intro member
    rcases List.mem_flatMap.mp member with ⟨entry, inCases, named⟩
    exact List.find?_eq_none.mp none entry inCases (List.contains_iff_mem.mpr named)

/-! ## States between tokens -/

def regionsOf : Mode → List String
  | .beforeHead | .afterHead => ["html"]
  | .inHead => ["head"]
  | .inBody | .afterBody | .afterAfterBody => ["body"]
  | .inTable => ["table"]
  | .inCaption => ["caption"]
  | .inColumnGroup => ["colgroup"]
  | .inTableBody => rowGroups
  | .inRow => ["tr"]
  | .inCell => cells
  | _ => []

namespace Builder

structure Starting (fostering : Bool) (builder : Builder) : Prop where
  mode : builder.mode = .initial ∨ builder.mode = .beforeHtml
  fosters : builder.fostering = fostering
  noTemplate : builder.templateModes = []
  stretches : ∀ token ∈ builder.tableText, (∃ content, token = .space content) ∨
    ∃ content, token = .text content
  empty : builder.stack = []
  assembled : ∃ label, Assembled [] label builder.nextNumber builder.trees builder.stack
    builder.formatting builder.headElement builder.form

def Settled (fostering : Bool) (mode : Mode) (builder : Builder) : Prop :=
  ∃ region, SoundIn [] mode fostering region builder ∧ region.isAnyOf (regionsOf mode) = true

def headModes : List Mode := [.beforeHead, .inHead, .afterHead]

def choiceNames : List String := ["option", "optgroup"]

/-- A list of choices is open, and nothing but choices in it. Around it the builder is sound. -/
structure SelectingIn (fostering : Bool) (mode : Mode) (region select : Element)
    (choices outer : List Element) (builder : Builder) : Prop where
  stack : builder.stack = choices ++ select :: outer
  areChoices : ∀ choice ∈ choices, choice.isAnyOf choiceNames = true
  isSelect : select.isAnyOf ["select"] = true
  sound : SoundIn (choices ++ [select]) mode fostering region { builder with stack := outer }
  shows : region.isAnyOf contentRegions = true
  selects : mode = .inSelect ∨ mode = .inSelectInTable

def Selecting (fostering : Bool) (mode : Mode) (builder : Builder) : Prop :=
  ∃ region select choices outer, SelectingIn fostering mode region select choices outer builder

/-- The builder is in one of the modes that raw text leads back to. -/
def Rests (fostering : Bool) (mode : Mode) (builder : Builder) : Prop :=
  Settled fostering mode builder ∨ Selecting fostering mode builder

/-- The builder is sound and will be in a mode of its latest region, after raw text or after text
in a table. -/
inductive Steady (fostering : Bool) (builder : Builder) : Prop where
  | starting (starting : Starting fostering builder)
  | settled (mode : Mode) (settled : Settled fostering mode builder)
  | selecting (mode : Mode) (selecting : Selecting fostering mode builder)
  | inTableText (mode : builder.mode = .inTableText) (shows : builder.returnMode ∉ headModes)
      (settled : Settled fostering builder.returnMode (builder.goTo builder.returnMode))
  | inText (mode : builder.mode = .text) (html : builder.currentIs Element.isHtml = true)
      (rests : Rests fostering builder.returnMode (builder.pop.goTo builder.returnMode))

/-- How the text after the builder's latest tag is read makes no difference. -/
theorem Steady.withReading {fostering : Bool} {builder : Builder}
    (steady : Steady fostering builder) (skipsBreak : Bool) (content : Content) (pauses : Bool) :
    Steady fostering { builder with skipsBreak, content, pauses } := by
  cases steady with
  | starting starting => exact .starting { starting with }
  | settled mode settled => exact .settled mode settled
  | selecting mode selecting =>
      rcases selecting with ⟨region, select, choices, outer, selecting⟩
      exact .selecting mode ⟨region, select, choices, outer, { selecting with }⟩
  | inTableText mode shows settled => exact .inTableText mode shows settled
  | inText mode html rests =>
      refine .inText mode html ?_
      rcases rests with settled | ⟨region, select, choices, outer, selecting⟩
      · exact .inl settled
      · exact .inr ⟨region, select, choices, outer, { selecting with }⟩

end Builder

def Outcome.All (property : Builder → Prop) : Outcome → Prop
  | .done builder => property builder
  | .again builder => property builder

namespace Builder

variable {kept : List Element} {mode : Mode} {fostering : Bool} {region : Element}
  {builder : Builder}

theorem SoundIn.hasNoTemplate (sound : SoundIn kept mode fostering region builder) :
    builder.hasOpen "template" = false := by
  have spine := sound.spine
  rw [hasOpen, List.any_eq_false]
  intro element isOpen named
  rw [Element.isNamed_eq (spine.isHtml isOpen)] at named
  rcases List.append_of_mem isOpen with ⟨inner, outer, stack⟩
  rw [stack] at spine
  have stands := (spine.of_suffix (List.suffix_append inner _)).2.1
  rw [beq_iff_eq.mp named] at stands
  exact absurd (by decide) (stands.ordinary_of_not_region (by decide)).common

theorem SoundIn.goTo (sound : SoundIn kept mode fostering region builder) (next : Mode) :
    SoundIn kept next fostering region (builder.goTo next) :=
  { sound with mode := rfl }

theorem SoundIn.mergeRoot (sound : SoundIn kept mode fostering region builder) (tag : Tag) :
    SoundIn kept mode fostering region (builder.mergeRoot tag) := by
  rw [Builder.mergeRoot]
  split
  · split
    · exact sound
    · exact sound.withTrees fun _ => Tree.allNested_addAttributes tag.attributes
  · exact sound

/-! ## Elements of the head -/

/-- Raw text leads back to where it began. -/
theorem SoundIn.insertRaw (sound : SoundIn [] mode fostering region builder)
    (there : region.isAnyOf (regionsOf mode) = true) {tag : Tag}
    (welcomes : Welcomes tag.name builder) (content : Content) :
    Steady fostering (builder.insertRaw content tag) := by
  have inserted := sound.insertVoid welcomes
  rcases sound.assembled with ⟨label, assembled⟩
  refine .inText rfl rfl (.inl ?_)
  rw [show (builder.insertRaw content tag).returnMode = mode from sound.mode]
  exact ⟨region, { inserted with mode := rfl }, there⟩

theorem welcomes_metadata {name : String} (member : name ∈ "noscript" :: Head.metadata)
    (builder : Builder) : Welcomes name builder := by
  have all : ∀ name ∈ "noscript" :: Head.metadata,
      name ∉ Markup.paragraphClosers ∧ name ∉ itemNames := by decide
  exact .of_notMem (all name member).1 (all name member).2 builder

/-- An element of the head has no content, or raw text as its content. -/
theorem insertMetadata_cases {tag : Tag} (member : tag.name ∈ "noscript" :: Head.metadata)
    (common : tag.name ∉ strayNames) (builder : Builder) :
    Head.insertMetadata tag builder = builder.insertVoid tag ∨
      ∃ content, Head.insertMetadata tag builder = builder.insertRaw content tag := by
  rw [Head.insertMetadata]
  apply choose_induction (motive := fun rule : Builder → Builder =>
    rule builder = builder.insertVoid tag ∨ ∃ content, rule builder = builder.insertRaw content tag)
  · simp only [List.forall_mem_cons]
    refine ⟨?_, ?_, ?_, ?_, List.forall_mem_nil _⟩ <;> intro _
    · exact .inl trivial
    · exact .inr ⟨_, rfl⟩
    · exact .inr ⟨_, rfl⟩
    · exact .inr ⟨_, rfl⟩
  · intro unruled
    have all : ∀ name ∈ "noscript" :: Head.metadata,
        name ∈ "template" :: ["base", "basefont", "bgsound", "link", "meta", "title", "noframes",
          "style", "noscript", "script"] := by decide
    rcases List.mem_cons.mp (all tag.name member) with template | ruled
    · exact absurd (by rw [template]; decide) common
    · exact absurd ruled unruled

theorem SoundIn.insertMetadata (sound : SoundIn [] mode fostering region builder)
    (there : region.isAnyOf (regionsOf mode) = true) {tag : Tag}
    (member : tag.name ∈ "noscript" :: Head.metadata) (common : tag.name ∉ strayNames) :
    Steady fostering (Head.insertMetadata tag builder) := by
  have welcomes := welcomes_metadata member builder
  rcases insertMetadata_cases member common builder with isVoid | ⟨content, isRaw⟩
  · rw [isVoid]
    exact .settled mode ⟨region, sound.insertVoid welcomes, there⟩
  · rw [isRaw]
    exact sound.insertRaw there welcomes content

end Builder

end ChatMarkup.Document
