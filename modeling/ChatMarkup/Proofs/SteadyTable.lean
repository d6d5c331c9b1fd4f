import ChatMarkup.Proofs.SteadyBody

/-!
The rules of tables keep a builder steady. Between the parts of a table the latest region is the part
that the mode belongs to, so that a tag closes what it is meant to close.
-/

namespace ChatMarkup.Document

namespace Builder

variable {kept : List Element} {mode : Mode} {fostering : Bool} {region : Element}
  {builder : Builder}

/-! ## Back to a region -/

theorem SoundIn.mem_region (sound : SoundIn kept mode fostering region builder) :
    ∃ inner outer, builder.stack = inner ++ region :: outer ∧
      ∀ element ∈ inner, element.isRegion = false := by
  rcases List.find?_eq_some_iff_append.mp sound.region with ⟨-, inner, outer, stack, apart⟩
  exact ⟨inner, outer, stack, fun element member => by simpa using apart element member⟩

/-- Regions are closed, down to another one. -/
theorem SoundIn.closeTo (sound : SoundIn kept mode fostering region builder)
    {rest : List Element} (suffix : rest <:+ builder.stack) {next : Element}
    (latest : region? rest = some next) :
    SoundIn kept mode fostering next { builder with stack := rest } := by
  rcases sound.assembled with ⟨label, assembled⟩
  exact { sound with region := latest, assembled := ⟨label, assembled.withSuffix suffix⟩ }

theorem IsSpine.notTemplate {inner outer : List Element} {element : Element}
    (spine : IsSpine (inner ++ element :: outer)) : element.name ≠ "template" := by
  intro named
  have stands := (spine.of_suffix (List.suffix_append inner _)).2.1
  rw [named] at stands
  exact absurd (by decide) (stands.ordinary_of_not_region (by decide)).common

/-- Everything inside of the latest region is closed. -/
theorem SoundIn.closeUntil (sound : SoundIn kept mode fostering region builder)
    {names : List String} (here : region.isAnyOf names = true)
    (regions : names ⊆ "template" :: regionNames) :
    SoundIn kept mode fostering region (builder.closeUntil (Element.isAnyOf names)) ∧
      ∃ outer, (builder.closeUntil (Element.isAnyOf names)).stack = region :: outer := by
  rcases sound.mem_region with ⟨inner, outer, stack, apart⟩
  have spine := sound.spine
  have passed : ∀ element ∈ inner, (!element.isAnyOf names) = true := by
    intro element member
    rw [Bool.not_eq_true']
    refine Bool.eq_false_iff.mpr fun named => ?_
    rcases List.mem_cons.mp (regions (Element.name_mem_of_isAnyOf named)) with template | isRegion
    · rcases List.append_of_mem member with ⟨later, earlier, rfl⟩
      rw [stack, List.append_assoc] at spine
      exact IsSpine.notTemplate spine template
    · have isRegion : element.isRegion = true := by
        rw [Element.isRegion, Element.isAnyOf_eq (Element.isHtml_of_isAnyOf named)]
        exact List.contains_iff_mem.mpr isRegion
      rw [apart element member] at isRegion
      cases isRegion
  have left : builder.stack.dropWhile (!Element.isAnyOf names ·) = region :: outer := by
    rw [stack, List.dropWhile_append_of_pos passed, List.dropWhile_cons, here]
    rfl
  refine ⟨?_, outer, left⟩
  have sheds : Sheds builder.stack (region :: outer) := ⟨inner, stack, apart⟩
  rw [Builder.closeUntil, left]
  exact sound.shed sheds

/-- What a part of a page or of a table stands in directly. -/
theorem SoundIn.popPart (sound : SoundIn kept mode fostering region builder)
    {outer : List Element} (stack : builder.stack = region :: outer)
    (part : region.name ∉ ["html", "table"]) :
    ∃ holder, holder.isAnyOf (holders region.name) = true ∧
      SoundIn kept mode fostering holder builder.pop ∧
        ∃ rest, builder.pop.stack = holder :: rest := by
  have spine := sound.spine
  rw [stack] at spine
  have held := spine.2.1.held (Element.name_mem_of_isAnyOf sound.isRegion) part
  rcases isRegion_of_held held with ⟨holder, rest, rfl, isRegion, holds⟩
  have popped : builder.pop = { builder with stack := holder :: rest } := by
    rw [Builder.pop, stack]
    rfl
  have suffix : holder :: rest <:+ builder.stack := by
    rw [stack]
    exact List.suffix_cons region _
  rw [popped]
  exact ⟨holder, holds, sound.closeTo suffix (region?_cons isRegion rest), rest, rfl⟩

/-- A part of a page or of a table is opened right inside of the region that holds it. -/
theorem SoundIn.openPart (sound : SoundIn kept mode false region builder)
    {outer : List Element} (stack : builder.stack = region :: outer) {name : String}
    (held : region.isAnyOf (holders name) = true) (named : name ∈ regionNames)
    (attributes : List Attribute) :
    SoundIn kept mode false (builder.fresh .html name attributes)
      (builder.openIn .html name attributes) := by
  rcases sound.assembled with ⟨label, assembled⟩
  have stands : StandsIn name builder.stack := by
    rw [stack]
    exact .part held
  have apart : builder.fostering = true → name ∉ itemNames := by
    intro fosters
    rw [sound.fosters] at fosters
    cases fosters
  rcases exists_openIn assembled (.of_stands sound.spine stands apart) stands attributes with
    ⟨trees, opened, more⟩
  have isRegion : (builder.fresh .html name attributes).isRegion = true := by
    rw [Element.isRegion, Element.isAnyOf_eq rfl]
    exact List.contains_iff_mem.mpr named
  rw [opened]
  exact { sound with
    region := region?_cons isRegion builder.stack
    assembled := ⟨_, more⟩ }

/-! ## The end of a table -/

theorem modeOf_eq_none (builder : Builder) {element : Element}
    (free : element.name ∉ regionNames ++ peculiarNames) (outer : List Element) : builder.modeOf element outer = none := by
  unfold modeOf
  split <;> simp_all [regionNames, contentRegions, peculiarNames]

theorem modeOf_region (builder : Builder) {element : Element} {outer : List Element}
    (shows : element.name ∈ contentRegions) (stands : StandsIn element.name outer) :
    ∃ mode, builder.modeOf element outer = some mode ∧ element.name ∈ regionsOf mode := by
  have inside : element.name ∈ cells → outer.isEmpty = false := by
    intro cell
    have all : ∀ name ∈ cells, name ∈ regionNames ∧ name ∉ ["html", "table"] := by decide
    rcases isRegion_of_held (stands.held (all _ cell).1 (all _ cell).2) with ⟨holder, rest, rfl, -⟩
    rfl
  unfold modeOf
  split <;> simp_all [contentRegions, regionsOf, cells, rowGroups]

/-- The mode of the open elements is a mode of the latest region. -/
theorem modeFor_region (builder : Builder) {stack : List Element} (spine : IsSpine stack)
    (latest : region? stack = some region) (shows : region.isAnyOf contentRegions = true) :
    region.isAnyOf (regionsOf (builder.modeFor stack)) = true := by
  induction stack with
  | nil => cases latest
  | cons element outer induction =>
      rw [modeFor, spine.1, if_pos rfl]
      cases isRegion : element.isRegion with
      | true =>
          rw [region?_cons isRegion] at latest
          cases latest
          rcases modeOf_region builder (Element.name_mem_of_isAnyOf shows) spine.2.1
            with ⟨mode, decided, there⟩
          rw [decided, Element.isAnyOf_eq spine.1]
          exact List.contains_iff_mem.mpr there
      | false =>
          rw [← (sheds_tail isRegion).region] at latest
          have ordinary := spine.2.1.ordinary_of_not_region (notMem_regionNames spine.1 isRegion)
          have free : element.name ∉ regionNames ++ peculiarNames := by
            rw [List.mem_append, not_or]
            exact ⟨notMem_regionNames spine.1 isRegion, ordinary.common⟩
          rw [modeOf_eq_none builder free]
          exact induction spine.2.2 latest

/-- Each part of a table leads out to the table. -/
theorem exists_table {stack : List Element} (spine : IsSpine stack)
    (latest : region? stack = some region) (part : region.isAnyOf tableParts = true) :
    ∃ inner table outer, stack = inner ++ table :: outer ∧ table.name = "table" ∧
      ∀ element ∈ inner, element.name ∉ "table" :: cells := by
  induction stack generalizing region with
  | nil => cases latest
  | cons element outer induction =>
      cases isRegion : element.isRegion with
      | false =>
          rw [← (sheds_tail isRegion).region] at latest
          rcases induction spine.2.2 latest part with ⟨inner, table, rest, split, named, apart⟩
          have noCell : element.name ∉ "table" :: cells := fun member =>
            notMem_regionNames spine.1 isRegion
              ((by decide : "table" :: cells ⊆ regionNames) member)
          exact ⟨element :: inner, table, rest, by rw [split]; rfl, named,
            List.forall_mem_cons.mpr ⟨noCell, apart⟩⟩
      | true =>
          rw [region?_cons isRegion] at latest
          cases latest
          by_cases named : element.name = "table"
          · exact ⟨[], element, outer, rfl, named, List.forall_mem_nil _⟩
          · have all : ∀ name ∈ tableParts, name ≠ "table" → name ∉ "table" :: cells ∧
                name ∉ ["html", "table"] ∧ holders name ⊆ tableParts := by decide
            rcases all _ (Element.name_mem_of_isAnyOf part) named with
              ⟨noCell, isPart, holdersPart⟩
            rcases isRegion_of_held (spine.2.1.held (Element.name_mem_of_isAnyOf isRegion) isPart)
              with ⟨holder, rest, rfl, holderRegion, holds⟩
            rcases induction spine.2.2 (region?_cons holderRegion rest)
                (Element.isAnyOf_of_subset holdersPart holds) with
              ⟨inner, table, rest, split, named, apart⟩
            exact ⟨element :: inner, table, rest, by rw [split]; rfl, named,
              List.forall_mem_cons.mpr ⟨noCell, apart⟩⟩

/-- After a table its place is in the region around it. -/
theorem SoundIn.closeTable (sound : SoundIn [] mode fostering region builder)
    (part : region.isAnyOf tableParts = true) :
    ∃ mode, Settled fostering mode (Table.closeTable builder) := by
  rcases exists_table sound.spine sound.region part with ⟨inner, table, outer, stack, named, apart⟩
  have spine := sound.spine
  rw [stack] at spine
  have tableSpine : IsSpine (table :: outer) := spine.of_suffix (List.suffix_append inner _)
  have isNamed : table.isNamed "table" = true := by
    rw [Element.isNamed_eq tableSpine.1, named]
    rfl
  have noTable : ∀ element ∈ inner, element.isNamed "table" = false := by
    intro element member
    rw [Element.isNamed_eq (spine.isHtml (List.mem_append_left _ member))]
    exact beq_eq_false_iff_ne.mpr fun same => apart element member (by rw [same]; decide)
  have left : outside (Element.isNamed "table") builder.stack = outer := by
    rw [stack]
    exact outside_split noTable isNamed
  have stands := tableSpine.2.1
  rw [named] at stands
  have ordinary := stands.ordinary_of_holders rfl (by decide)
  cases latest : region? outer with
  | none =>
      have shows := ordinary.region
      rw [latest] at shows
      cases shows
  | some around =>
      have shows := ordinary.region
      rw [latest] at shows
      have suffix : outer <:+ builder.stack := by
        rw [stack]
        exact (List.suffix_cons table outer).trans (List.suffix_append inner _)
      have closed := sound.closeTo suffix latest
      have there := modeFor_region { builder with stack := outer } tableSpine.2.2 latest shows
      rw [Table.closeTable, Builder.closeThrough, left]
      exact ⟨_, around, closed.goTo _, there⟩

/-! ## What is put in front of a table -/

theorem Settled.withFostering (settled : Settled fostering mode builder) (other : Bool) :
    Settled other mode { builder with fostering := other } := by
  rcases settled with ⟨region, sound, there⟩
  exact ⟨region, { sound with fosters := rfl }, there⟩

theorem Selecting.withFostering (selecting : Selecting fostering mode builder) (other : Bool) :
    Selecting other mode { builder with fostering := other } := by
  rcases selecting with ⟨region, select, choices, outer, selecting⟩
  exact ⟨region, select, choices, outer, { selecting with
    sound := { selecting.sound with fosters := rfl } }⟩

theorem Steady.withFostering (steady : Steady fostering builder) (other : Bool) :
    Steady other { builder with fostering := other } := by
  cases steady with
  | starting starting => exact .starting { starting with fosters := rfl }
  | settled mode settled => exact .settled mode (settled.withFostering other)
  | selecting mode selecting => exact .selecting mode (selecting.withFostering other)
  | inTableText mode shows settled => exact .inTableText mode shows (settled.withFostering other)
  | inText mode html rests =>
      exact .inText mode html (rests.imp (·.withFostering other) (·.withFostering other))

theorem SoundIn.withFostering (sound : SoundIn kept mode fostering region builder)
    (other : Bool) : SoundIn kept mode other region { builder with fostering := other } :=
  { sound with fosters := rfl }

theorem SoundIn.foster (sound : SoundIn [] mode false region builder)
    (there : region.isAnyOf (regionsOf mode) = true)
    (shows : region.isAnyOf contentRegions = true) {token : Token}
    (apart : ∀ name, token = .endTag name → name ≠ "body" → region.isNamed name = false)
    (stays : builder.strays token = false) :
    (Table.foster token builder).All (Steady false) := by
  have fosters := (sound.withFostering true).inBody there shows apart stays
  rw [Table.foster]
  split
  · rename_i fostered done
    rw [done] at fosters
    exact fosters.withFostering false
  · rename_i fostered again
    rw [again] at fosters
    exact fosters.withFostering false

/-! ## Text in a table -/

theorem notMem_headModes : ∀ name ∈ contentRegions, name ∈ regionsOf mode → mode ∉ headModes := by
  cases mode <;> decide

theorem SoundIn.holdText (sound : SoundIn [] mode false region builder)
    (there : region.isAnyOf (regionsOf mode) = true)
    (shows : region.isAnyOf contentRegions = true) {token : Token}
    (apart : ∀ name, token = .endTag name → name ≠ "body" → region.isNamed name = false)
    (stays : builder.strays token = false) :
    (Table.holdText token builder).All (Steady false) := by
  rw [Table.holdText]
  split
  · have inMode := sound.mode
    subst inMode
    have noHead : builder.mode ∉ headModes := notMem_headModes region.name
      (Element.name_mem_of_isAnyOf shows) (Element.name_mem_of_isAnyOf there)
    exact .inTableText rfl noHead ⟨region, { sound with mode := rfl }, there⟩
  · exact sound.foster there shows apart stays

theorem returnMode_insertAt (place : Option Place) (tree : Tree) (builder : Builder) :
    (builder.insertAt place tree).returnMode = builder.returnMode := by
  unfold insertAt
  split
  · rfl
  · rfl
  · split <;> rfl

theorem returnMode_reconstruct (builder : Builder) :
    builder.reconstruct.returnMode = builder.returnMode := by
  have fold : ∀ (elements : List Element) (builder : Builder),
      (elements.foldl reopen builder).returnMode = builder.returnMode := by
    intro elements
    induction elements with
    | nil => exact fun _ => rfl
    | cons element rest induction =>
        intro builder
        exact (induction _).trans (returnMode_insertAt _ _ builder)
  exact fold _ _

def Placing (mode : Mode) (region : Element) (builder : Builder) : Prop :=
  SoundIn [] .inTableText false region builder ∧ builder.returnMode = mode

theorem Placing.insertText (placing : Placing mode region builder) (content : List Char) :
    Placing mode region (builder.insertText content) :=
  ⟨placing.1.insertText content, (returnMode_insertAt _ _ builder).trans placing.2⟩

theorem Placing.placeSpace (placing : Placing mode region builder) (token : Token) :
    Placing mode region (Table.placeSpace builder token) := by
  unfold Table.placeSpace
  split
  · exact placing.insertText _
  · exact placing.insertText _
  · exact placing

theorem Placing.placeText (placing : Placing mode region builder)
    (shows : region.isAnyOf contentRegions = true) {token : Token}
    (stretch : (∃ content, token = .space content) ∨ ∃ content, token = .text content) :
    Placing mode region (Table.placeText builder token) := by
  have opened := (placing.1.withFostering true).reconstruct shows
  have returns := (returnMode_reconstruct { builder with fostering := true }).trans placing.2
  rcases stretch with ⟨content, rfl⟩ | ⟨content, rfl⟩
  · exact ⟨(opened.insertText content).withFostering false,
      (returnMode_insertAt _ _ _).trans returns⟩
  · have forbidden : SoundIn [] .inTableText true region
        (Builder.reconstruct { builder with fostering := true }).forbidFrameset := opened
    exact ⟨(forbidden.insertText content).withFostering false,
      (returnMode_insertAt _ _ _).trans returns⟩

theorem Placing.foldl {place : Builder → Token → Builder} {tokens : List Token}
    (places : ∀ token ∈ tokens, ∀ builder, Placing mode region builder →
      Placing mode region (place builder token))
    (placing : Placing mode region builder) :
    Placing mode region (tokens.foldl place builder) := by
  induction tokens generalizing builder with
  | nil => exact placing
  | cons token rest induction =>
      rw [List.forall_mem_cons] at places
      exact induction places.2 (places.1 builder placing)

theorem Placing.placeTableText (placing : Placing mode region builder)
    (shows : region.isAnyOf contentRegions = true) :
    Placing mode region (Table.placeTableText builder) := by
  have emptied : Placing mode region { builder with tableText := [] } :=
    ⟨{ placing.1 with stretches := List.forall_mem_nil _ }, placing.2⟩
  rw [Table.placeTableText]
  split
  · apply emptied.foldl
    intro token member next placingNext
    exact placingNext.placeText shows (placing.1.stretches token (List.mem_reverse.mp member))
  · exact emptied.foldl fun token _ next placingNext => placingNext.placeSpace token

theorem shows_of_there (noHead : mode ∉ headModes)
    (there : region.isAnyOf (regionsOf mode) = true) : region.isAnyOf contentRegions = true := by
  refine Element.isAnyOf_of_subset ?_ there
  revert noHead
  cases mode <;> decide

/-- The text that was held back is placed before any other token is taken. -/
theorem Settled.inTableText (settled : Settled false builder.returnMode
      (builder.goTo builder.returnMode))
    (held : builder.mode = .inTableText)
    (noHead : builder.returnMode ∉ headModes) (token : Token) :
    (Table.inTableText token builder).All (Steady false) := by
  rcases settled with ⟨region, sound, there⟩
  have placing : Placing builder.returnMode region builder := ⟨{ sound with mode := held }, rfl⟩
  have holds : ∀ more, ((∃ content, more = .space content) ∨ ∃ content, more = .text content) →
      Steady false { builder with tableText := more :: builder.tableText } := by
    intro more stretch
    exact .inTableText held noHead ⟨region, { sound with
      stretches := List.forall_mem_cons.mpr ⟨stretch, sound.stretches⟩ }, there⟩
  unfold Table.inTableText
  split
  · exact .inTableText held noHead ⟨region, sound, there⟩
  · exact holds _ (.inl ⟨_, rfl⟩)
  · exact holds _ (.inr ⟨_, rfl⟩)
  · have placed := placing.placeTableText (shows_of_there noHead there)
    refine .settled builder.returnMode ⟨region, ?_, there⟩
    rw [placed.2]
    exact placed.1.goTo _

/-! ## Tags between the parts of a table -/

/-- A form between the parts of a table gets no content, so that it may stand everywhere but in a
paragraph. -/
theorem SoundIn.startTableForm (sound : SoundIn [] mode fostering region builder) {tag : Tag}
    (named : tag.name = "form")
    (noParagraph : builder.currentIs (Element.isNamed "p") = false) :
    SoundIn [] mode fostering region (Table.startForm tag builder) := by
  have welcomes : Welcomes tag.name builder := by
    rw [named]
    refine ⟨fun current latest => fits_of_ne ?_ (by decide), fun _ _ => by decide⟩
    intro paragraph
    rcases List.head?_eq_some_iff.mp latest with ⟨outer, stack⟩
    have spine := sound.spine
    rw [stack] at spine
    rw [currentIs, latest, Option.any_some, Element.isNamed_eq spine.1, paragraph] at noParagraph
    cases noParagraph
  rw [Table.startForm]
  split
  · exact sound
  · exact ((sound.insertVoid_kept welcomes).pointTo (.inr List.mem_cons_self) named).drop

/-- The tags of parts of a table, apart from the table itself. -/
def partTags : List String := ["caption", "colgroup", "col"] ++ rowGroups ++ "tr" :: cells

/-- The mode of a part that is opened right inside of its holder is the mode of the part. -/
theorem SoundIn.enterPart (sound : SoundIn [] mode false region builder) {outer : List Element}
    (stack : builder.stack = region :: outer) {name : String}
    (held : region.isAnyOf (holders name) = true) (named : name ∈ regionNames)
    (attributes : List Attribute) (next : Mode) (leads : name ∈ regionsOf next) :
    Settled false next ((builder.openIn .html name attributes).goTo next) := by
  refine ⟨_, (sound.openPart stack held named attributes).goTo next, ?_⟩
  rw [Element.isAnyOf_eq rfl]
  exact List.contains_iff_mem.mpr leads

def outerParts : List String := "caption" :: "colgroup" :: rowGroups

theorem isRegion_of_outerPart {name : String} (part : name ∈ outerParts) :
    holders name = ["table"] ∧ name ∈ regionNames := by
  have all : ∀ name ∈ outerParts, holders name = ["table"] ∧ name ∈ regionNames := by decide
  exact all name part

theorem SoundIn.backToTable (sound : SoundIn [] mode false region builder)
    (isTable : region.isAnyOf ["table"] = true) :
    SoundIn [] mode false region (Table.backToTable builder) ∧
      ∃ outer, (Table.backToTable builder).stack = region :: outer :=
  sound.closeUntil (Element.isAnyOf_of_subset (by decide) isTable) (by decide)

/-- After everything is closed that is open in a table, a part of it is opened. -/
theorem SoundIn.openOuterPart (sound : SoundIn [] mode false region builder)
    (isTable : region.isAnyOf ["table"] = true) {name : String} (part : name ∈ outerParts)
    (attributes : List Attribute) {next : Mode} (leads : name ∈ regionsOf next) :
    Settled false next
      (((Table.backToTable builder).openIn .html name attributes).goTo next) := by
  rcases isRegion_of_outerPart part with ⟨held, named⟩
  rcases sound.backToTable isTable with ⟨closed, outer, stack⟩
  exact closed.enterPart stack (by rw [held]; exact isTable) named attributes next leads

theorem SoundIn.startCaption (sound : SoundIn [] mode false region builder)
    (isTable : region.isAnyOf ["table"] = true) {tag : Tag} (named : tag.name = "caption") :
    Settled false .inCaption
      (((Table.backToTable builder).addMarker.insert tag).goTo .inCaption) := by
  rcases sound.backToTable isTable with ⟨closed, outer, stack⟩
  refine closed.addMarker.enterPart stack ?_ ?_ tag.attributes .inCaption ?_
  · rw [named]
    exact isTable
  · rw [named]
    decide
  · rw [named]
    decide

theorem mem_betweenParts : ∀ name ∈ tableParts, name ∈ regionsOf mode → mode ∈ betweenParts := by
  cases mode <;> decide

theorem SoundIn.inTableStart (sound : SoundIn [] mode false region builder)
    (there : region.isAnyOf (regionsOf mode) = true) (part : region.isAnyOf tableParts = true)
    {tag : Tag} (inTable : tag.name ∈ partTags → region.isAnyOf ["table"] = true)
    (stays : builder.straysAtStart tag.name = false) :
    (Table.startTag tag builder).All (Steady false) := by
  have shows : region.isAnyOf contentRegions = true :=
    Element.isAnyOf_of_subset (by decide) part
  have apart : ∀ name, Token.startTag tag = .endTag name → name ≠ "body" →
      region.isNamed name = false := fun name different => by cases different
  have staysApart := staysAtStart stays
  rw [Table.startTag]
  apply choose_induction (motive := fun rule : Builder → Outcome =>
    (rule builder).All (Steady false))
  · simp only [List.forall_mem_cons]
    refine ⟨?caption, ?colgroup, ?col, ?rows, ?cells, ?table, ?metadata, ?input, ?form,
      List.forall_mem_nil _⟩
    all_goals intro named
    case caption =>
      exact .settled _ (sound.startCaption
        (inTable ((by decide : ["caption"] ⊆ partTags) named)) (List.mem_singleton.mp named))
    case colgroup =>
      have part := (by decide : ["colgroup"] ⊆ outerParts) named
      exact .settled _ (sound.openOuterPart
        (inTable ((by decide : ["colgroup"] ⊆ partTags) named)) part _ named)
    case col =>
      have isTable := inTable ((by decide : ["col"] ⊆ partTags) named)
      exact .settled _ (sound.openOuterPart isTable (by decide) _ (by decide))
    case rows =>
      have part := (by decide : rowGroups ⊆ outerParts) named
      exact .settled _ (sound.openOuterPart
        (inTable ((by decide : rowGroups ⊆ partTags) named)) part _ named)
    case cells =>
      have isTable := inTable ((by decide : "tr" :: cells ⊆ partTags) named)
      exact .settled _ (sound.openOuterPart isTable (by decide) _ (by decide))
    case table =>
      rcases sound.closeTable part with ⟨next, settled⟩
      split
      · exact .settled next settled
      · exact .settled mode ⟨region, sound, there⟩
    case metadata =>
      exact sound.insertMetadata there
        ((by decide : ["style", "script", "template"] ⊆ "noscript" :: Head.metadata) named)
        staysApart.common
    case input =>
      split
      · have all : ∀ name ∈ ["input"], name ∉ Markup.paragraphClosers ∧ name ∉ itemNames := by decide
        rcases all tag.name named with ⟨noCloser, noItem⟩
        exact .settled mode ⟨region, sound.insertVoid (.of_notMem noCloser noItem builder), there⟩
      · exact sound.foster there shows apart stays
    case form =>
      have isForm := List.mem_singleton.mp named
      have between : builder.mode ∈ betweenParts := by
        rw [sound.mode]
        exact mem_betweenParts _ (Element.name_mem_of_isAnyOf part)
          (Element.name_mem_of_isAnyOf there)
      exact .settled mode ⟨region, sound.startTableForm isForm (staysApart.form isForm between),
        there⟩
  · intro _
    exact sound.foster there shows apart stays

theorem isNamed_of_notMem {names : List String} {name : String}
    (here : region.isAnyOf names = true) (other : name ∉ names) : region.isNamed name = false := by
  rw [Element.isNamed_eq (Element.isHtml_of_isAnyOf here)]
  refine beq_eq_false_iff_ne.mpr fun same => other ?_
  rw [← same]
  exact Element.name_mem_of_isAnyOf here

theorem SoundIn.inTableEnd (sound : SoundIn [] mode false region builder)
    (there : region.isAnyOf (regionsOf mode) = true) (part : region.isAnyOf tableParts = true)
    {name : String} (stays : builder.strays (.endTag name) = false) :
    (Table.endTag name builder).All (Steady false) := by
  have shows : region.isAnyOf contentRegions = true :=
    Element.isAnyOf_of_subset (by decide) part
  rw [Table.endTag]
  apply choose_induction (motive := fun rule : Builder → Outcome =>
    (rule builder).All (Steady false))
  · simp only [List.forall_mem_cons]
    refine ⟨?table, ?ignored, ?template, List.forall_mem_nil _⟩
    all_goals intro named
    case table =>
      rcases sound.closeTable part with ⟨next, settled⟩
      split
      · exact .settled next settled
      · exact .settled mode ⟨region, sound, there⟩
    case ignored => exact .settled mode ⟨region, sound, there⟩
    case template =>
      rw [Head.endTemplate, sound.hasNoTemplate]
      exact .settled mode ⟨region, sound, there⟩
  · intro unruled
    have other : name ∉ tableParts := fun member => unruled
      ((by decide : tableParts ⊆ ["table"] ++ Table.ignoredEnds ++ ["template"]) member)
    apply sound.foster there shows _ stays
    rintro _ ⟨⟩ _
    exact isNamed_of_notMem part other

/-- Tags of parts have rules of their own inside of the parts. -/
theorem SoundIn.inTable (sound : SoundIn [] mode false region builder)
    (there : region.isAnyOf (regionsOf mode) = true) (part : region.isAnyOf tableParts = true)
    {token : Token} (inTable : ∀ tag, token = .startTag tag → tag.name ∈ partTags →
      region.isAnyOf ["table"] = true)
    (stays : builder.strays token = false) :
    (Table.inTable token builder).All (Steady false) := by
  have shows : region.isAnyOf contentRegions = true :=
    Element.isAnyOf_of_subset (by decide) part
  have settled : Steady false builder := .settled mode ⟨region, sound, there⟩
  cases token with
  | null => exact sound.holdText there shows (fun name different => by cases different) stays
  | space content => exact sound.holdText there shows (fun name different => by cases different) stays
  | text content => exact sound.holdText there shows (fun name different => by cases different) stays
  | comment content => exact .settled mode ⟨region, sound.insertComment content, there⟩
  | startTag tag => exact sound.inTableStart there part (inTable tag rfl) stays
  | endTag name => exact sound.inTableEnd there part stays
  | finish =>
      rw [Table.inTable, Body.finish, sound.hasNoTemplate]
      exact settled
  | doctype _ => exact settled
  | fault => exact settled

/-- A token that starts no part of a table is taken in a part as in the table around it. -/
theorem SoundIn.inTableApart (sound : SoundIn [] mode false region builder)
    (there : region.isAnyOf (regionsOf mode) = true) (part : region.isAnyOf tableParts = true)
    {token : Token} (apart : ∀ tag, token = .startTag tag → tag.name ∉ partTags)
    (stays : builder.strays token = false) :
    (Table.inTable token builder).All (Steady false) :=
  sound.inTable there part (fun tag starts member => absurd member (apart tag starts)) stays

end Builder

end ChatMarkup.Document
