import ChatMarkup.Proofs.SteadyTable

/-!
The rules inside of the parts of tables keep a builder steady. Each part is left by closing it
together with what is open in it, which leads back to what holds the part.
-/

namespace ChatMarkup.Document

namespace Builder

variable {kept : List Element} {mode : Mode} {fostering : Bool} {region : Element}
  {builder : Builder}

def Passes (outcome : Builder → Outcome) : Prop :=
  ∀ builder, Steady false builder → (outcome builder).All (Steady false)

theorem passes_done : Passes .done := fun _ steady => steady

theorem passes_again : Passes .again := fun _ steady => steady

/-! ## Leaving a part -/

/-- The latest region is closed, which is a part of a table. -/
theorem SoundIn.closePart (sound : SoundIn kept mode fostering region builder)
    {test : Element → Bool} (apart : ∀ element, element.isRegion = false → test element = false)
    (passes : test region = true) (part : region.name ∉ ["html", "table"]) :
    ∃ holder, holder.isAnyOf (holders region.name) = true ∧
      SoundIn kept mode fostering holder (builder.closeImplied.closeThrough test) := by
  rcases sound.mem_region with ⟨inner, outer, stack, noRegion⟩
  have left : outside test (builder.stack.dropWhile (Element.isAnyOf impliedEnds)) = outer := by
    rw [outside_dropWhile fun element implied =>
      apart element (isRegion_of_isAnyOf_impliedEnds element implied), stack]
    exact outside_split (fun element member => apart element (noRegion element member)) passes
  have spine := sound.spine
  rw [stack] at spine
  have stands := (spine.of_suffix (List.suffix_append inner _)).2.1
  rcases isRegion_of_held (stands.held (Element.name_mem_of_isAnyOf sound.isRegion) part) with
    ⟨holder, rest, rfl, isRegion, holds⟩
  have suffix : holder :: rest <:+ builder.stack := by
    rw [stack]
    exact (List.suffix_cons region _).trans (List.suffix_append inner _)
  refine ⟨holder, holds, ?_⟩
  have closed := sound.closeTo suffix (region?_cons isRegion rest)
  rw [← left] at closed
  exact closed

theorem isNamed_of_noRegion {name : String} (isRegion : name ∈ regionNames) (element : Element)
    (noRegion : element.isRegion = false) : element.isNamed name = false := by
  refine Bool.eq_false_iff.mpr fun named => ?_
  have html := (Bool.and_eq_true_iff.mp named).1
  rw [Element.isRegion, Element.isAnyOf_eq html, beq_iff_eq.mp (Bool.and_eq_true_iff.mp named).2,
    List.contains_iff_mem.mpr isRegion] at noRegion
  cases noRegion

theorem isAnyOf_of_noRegion {names : List String} (regions : names ⊆ regionNames)
    (element : Element) (noRegion : element.isRegion = false) : element.isAnyOf names = false := by
  refine Bool.eq_false_iff.mpr fun named => ?_
  rw [Element.isRegion, Element.isAnyOf_of_subset regions named] at noRegion
  cases noRegion

theorem isNamed_of_isAnyOf_singleton {element : Element} {name : String}
    (here : element.isAnyOf [name] = true) : element.isNamed name = true := by
  rw [Element.isNamed_eq (Element.isHtml_of_isAnyOf here)]
  exact beq_iff_eq.mpr (List.mem_singleton.mp (Element.name_mem_of_isAnyOf here))

/-! ## Captions -/

theorem SoundIn.leaveCaption (sound : SoundIn [] .inCaption false region builder)
    (here : region.isAnyOf ["caption"] = true) {outcome : Builder → Outcome}
    (passes : Passes outcome) : (Table.leaveCaption outcome builder).All (Steady false) := by
  have named := List.mem_singleton.mp (Element.name_mem_of_isAnyOf here)
  rw [Table.leaveCaption]
  split
  · rcases sound.closePart (isNamed_of_noRegion (by decide))
      (isNamed_of_isAnyOf_singleton here) (by rw [named]; decide) with ⟨table, holds, closed⟩
    rw [named] at holds
    exact passes _ (.settled .inTable ⟨table, closed.clearToMarker.goTo .inTable, holds⟩)
  · exact .settled .inCaption ⟨region, sound, here⟩

theorem SoundIn.inCaption (sound : SoundIn [] .inCaption false region builder)
    (here : region.isAnyOf ["caption"] = true) {token : Token}
    (stays : builder.strays token = false) :
    (Table.inCaption token builder).All (Steady false) := by
  have shows : region.isAnyOf contentRegions = true :=
    Element.isAnyOf_of_subset (by decide) here
  have body : (∀ name, token = .endTag name → name ∉ ["caption"]) →
      (Body.inBody token builder).All (Steady false) := by
    intro apart
    exact sound.inBody here shows
      (fun name isEnd _ => isNamed_of_notMem here (apart name isEnd)) stays
  unfold Table.inCaption
  split
  · apply choose_induction (motive := fun rule : Builder → Outcome =>
      (rule builder).All (Steady false))
    · simp only [List.forall_mem_cons]
      exact ⟨fun _ => sound.leaveCaption here passes_again, List.forall_mem_nil _⟩
    · exact fun _ => body fun name different => by cases different
  · apply choose_induction (motive := fun rule : Builder → Outcome =>
      (rule builder).All (Steady false))
    · simp only [List.forall_mem_cons]
      exact ⟨fun _ => sound.leaveCaption here passes_done,
        fun _ => sound.leaveCaption here passes_again,
        fun _ => .settled .inCaption ⟨region, sound, here⟩, List.forall_mem_nil _⟩
    · intro unruled
      apply body
      rintro _ ⟨⟩ member
      exact unruled (List.mem_append_left _ member)
  · rename_i noStart noEnd
    exact body fun name isEnd => absurd isEnd (noEnd name)

/-! ## Groups of columns -/

theorem SoundIn.leaveColumnGroup (sound : SoundIn [] .inColumnGroup false region builder)
    (here : region.isAnyOf ["colgroup"] = true) {outcome : Builder → Outcome}
    (passes : Passes outcome) : (Table.leaveColumnGroup outcome builder).All (Steady false) := by
  rw [Table.leaveColumnGroup]
  split
  · rename_i current
    rcases exists_of_currentIs current with ⟨group, outer, stack, named⟩
    have latest := sound.region
    have isRegion : group.isRegion = true := by
      refine Bool.not_eq_false _ |>.mp fun noRegion => ?_
      rw [isNamed_of_noRegion (by decide) group noRegion] at named
      cases named
    rw [stack, region?_cons isRegion] at latest
    cases latest
    have groupNamed := List.mem_singleton.mp (Element.name_mem_of_isAnyOf here)
    rcases sound.popPart stack (by rw [groupNamed]; decide) with ⟨table, holds, popped, -⟩
    rw [groupNamed] at holds
    exact passes _ (.settled .inTable ⟨table, popped.goTo .inTable, holds⟩)
  · exact .settled .inColumnGroup ⟨region, sound, here⟩

theorem SoundIn.inColumnGroup (sound : SoundIn [] .inColumnGroup false region builder)
    (here : region.isAnyOf ["colgroup"] = true) {token : Token}
    (stays : builder.strays token = false) :
    (Table.inColumnGroup token builder).All (Steady false) := by
  have settle : ∀ {next : Builder}, SoundIn [] .inColumnGroup false region next →
      Steady false next := fun sound => .settled _ ⟨region, sound, here⟩
  unfold Table.inColumnGroup
  split
  · exact settle (sound.insertText _)
  · exact settle (sound.insertComment _)
  · rename_i tag
    apply choose_induction (motive := fun rule : Builder → Outcome =>
      (rule builder).All (Steady false))
    · simp only [List.forall_mem_cons]
      refine ⟨fun _ => settle (sound.mergeRoot tag), fun named => ?_, fun named => ?_,
        List.forall_mem_nil _⟩
      · have all : ∀ name ∈ ["col"], name ∉ Markup.paragraphClosers ∧ name ∉ itemNames := by decide
        rcases all tag.name named with ⟨noCloser, noItem⟩
        exact settle (sound.insertVoid (.of_notMem noCloser noItem builder))
      · exact absurd ((by decide : ["template"] ⊆ strayNames) named)
          (staysAtStart stays).common
    · exact fun _ => sound.leaveColumnGroup here passes_again
  · apply choose_induction (motive := fun rule : Builder → Outcome =>
      (rule builder).All (Steady false))
    · simp only [List.forall_mem_cons]
      refine ⟨fun _ => sound.leaveColumnGroup here passes_done, fun _ => settle sound, fun _ => ?_,
        List.forall_mem_nil _⟩
      rw [Head.endTemplate, sound.hasNoTemplate]
      exact settle sound
    · exact fun _ => sound.leaveColumnGroup here passes_again
  · rw [Body.finish, sound.hasNoTemplate]
    exact settle sound
  · exact sound.leaveColumnGroup here passes_again

/-! ## Rows -/

theorem SoundIn.backToGroup (sound : SoundIn [] mode false region builder)
    (here : region.isAnyOf rowGroups = true) :
    SoundIn [] mode false region (Table.backToGroup builder) ∧
      ∃ outer, (Table.backToGroup builder).stack = region :: outer :=
  sound.closeUntil (Element.isAnyOf_of_subset (by decide) here) (by decide)

theorem SoundIn.backToRow (sound : SoundIn [] mode false region builder)
    (here : region.isAnyOf ["tr"] = true) :
    SoundIn [] mode false region (Table.backToRow builder) ∧
      ∃ outer, (Table.backToRow builder).stack = region :: outer :=
  sound.closeUntil (Element.isAnyOf_of_subset (by decide) here) (by decide)

theorem SoundIn.leaveGroup (sound : SoundIn [] mode false region builder)
    (here : region.isAnyOf rowGroups = true) {outcome : Builder → Outcome}
    (passes : Passes outcome) : (Table.leaveGroup outcome builder).All (Steady false) := by
  rcases sound.backToGroup here with ⟨closed, outer, stack⟩
  have all : ∀ name ∈ rowGroups, name ∉ ["html", "table"] ∧ holders name = ["table"] := by decide
  have group := all _ (Element.name_mem_of_isAnyOf here)
  rcases closed.popPart stack group.1 with ⟨table, holds, popped, -⟩
  rw [group.2] at holds
  exact passes _ (.settled .inTable ⟨table, popped.goTo .inTable, holds⟩)

theorem SoundIn.interruptGroup (sound : SoundIn [] .inTableBody false region builder)
    (here : region.isAnyOf rowGroups = true) :
    (Table.interruptGroup builder).All (Steady false) := by
  rw [Table.interruptGroup]
  split
  · exact sound.leaveGroup here passes_again
  · exact .settled .inTableBody ⟨region, sound, here⟩

/-- A row is opened in its group, also where its tag is missing. -/
theorem SoundIn.startRow (sound : SoundIn [] mode false region builder)
    (here : region.isAnyOf rowGroups = true) {name : String} (named : name = "tr")
    (attributes : List Attribute) :
    Settled false .inRow
      (((Table.backToGroup builder).openIn .html name attributes).goTo .inRow) := by
  subst named
  rcases sound.backToGroup here with ⟨closed, outer, stack⟩
  have held : region.isAnyOf (holders "tr") = true := here
  exact closed.enterPart stack held (by decide) attributes .inRow (by decide)

theorem SoundIn.inTableBody (sound : SoundIn [] .inTableBody false region builder)
    (here : region.isAnyOf rowGroups = true) {token : Token}
    (stays : builder.strays token = false) :
    (Table.inTableBody token builder).All (Steady false) := by
  have settled : Steady false builder := .settled .inTableBody ⟨region, sound, here⟩
  have part : region.isAnyOf tableParts = true := Element.isAnyOf_of_subset (by decide) here
  unfold Table.inTableBody
  split
  · apply choose_induction (motive := fun rule : Builder → Outcome =>
      (rule builder).All (Steady false))
    · simp only [List.forall_mem_cons]
      exact ⟨fun named => .settled _ (sound.startRow here (List.mem_singleton.mp named) _),
        fun _ => .settled _ (sound.startRow here rfl _), fun _ => sound.interruptGroup here,
        List.forall_mem_nil _⟩
    · intro unruled
      refine sound.inTableApart here part ?_ stays
      rintro _ ⟨⟩ member
      exact unruled ((by decide : partTags ⊆
        ["tr"] ++ cells ++ "caption" :: "col" :: "colgroup" :: rowGroups) member)
  · apply choose_induction (motive := fun rule : Builder → Outcome =>
      (rule builder).All (Steady false))
    · simp only [List.forall_mem_cons]
      refine ⟨fun _ => ?_, fun _ => sound.interruptGroup here, fun _ => settled,
        List.forall_mem_nil _⟩
      split
      · exact sound.leaveGroup here passes_done
      · exact settled
    · exact fun _ => sound.inTableApart here part (fun tag different => by cases different) stays
  · rename_i noStart _
    exact sound.inTableApart here part (fun tag starts => absurd starts (noStart tag)) stays

theorem SoundIn.leaveRow (sound : SoundIn [] .inRow false region builder)
    (here : region.isAnyOf ["tr"] = true) {outcome : Builder → Outcome}
    (passes : Passes outcome) : (Table.leaveRow outcome builder).All (Steady false) := by
  rw [Table.leaveRow]
  split
  · rcases sound.backToRow here with ⟨closed, outer, stack⟩
    have named := List.mem_singleton.mp (Element.name_mem_of_isAnyOf here)
    rcases closed.popPart stack (by rw [named]; decide) with ⟨group, holds, popped, -⟩
    rw [named] at holds
    exact passes _ (.settled .inTableBody ⟨group, popped.goTo .inTableBody, holds⟩)
  · exact .settled .inRow ⟨region, sound, here⟩

theorem SoundIn.startCell (sound : SoundIn [] mode false region builder)
    (here : region.isAnyOf ["tr"] = true) {tag : Tag} (cell : tag.name ∈ cells) :
    Settled false .inCell
      (((Table.backToRow builder).insert tag).goTo .inCell).addMarker := by
  have all : ∀ name ∈ cells, holders name = ["tr"] ∧ name ∈ regionNames := by decide
  rcases sound.backToRow here with ⟨closed, outer, stack⟩
  rcases closed.enterPart stack (by rw [(all _ cell).1]; exact here) (all _ cell).2 tag.attributes
    .inCell cell with ⟨opened, entered, there⟩
  exact ⟨opened, entered.addMarker, there⟩

theorem SoundIn.inRow (sound : SoundIn [] .inRow false region builder)
    (here : region.isAnyOf ["tr"] = true) {token : Token}
    (stays : builder.strays token = false) :
    (Table.inRow token builder).All (Steady false) := by
  have settled : Steady false builder := .settled .inRow ⟨region, sound, here⟩
  have part : region.isAnyOf tableParts = true := Element.isAnyOf_of_subset (by decide) here
  unfold Table.inRow
  split
  · apply choose_induction (motive := fun rule : Builder → Outcome =>
      (rule builder).All (Steady false))
    · simp only [List.forall_mem_cons]
      exact ⟨fun cell => .settled _ (sound.startCell here cell),
        fun _ => sound.leaveRow here passes_again, List.forall_mem_nil _⟩
    · intro unruled
      refine sound.inTableApart here part ?_ stays
      rintro _ ⟨⟩ member
      exact unruled ((by decide : partTags ⊆
        cells ++ "caption" :: "col" :: "colgroup" :: "tr" :: rowGroups) member)
  · apply choose_induction (motive := fun rule : Builder → Outcome =>
      (rule builder).All (Steady false))
    · simp only [List.forall_mem_cons]
      refine ⟨fun _ => sound.leaveRow here passes_done, fun _ => sound.leaveRow here passes_again,
        fun _ => ?_, fun _ => settled, List.forall_mem_nil _⟩
      split
      · exact sound.leaveRow here passes_again
      · exact settled
    · exact fun _ => sound.inTableApart here part (fun tag different => by cases different) stays
  · rename_i noStart _
    exact sound.inTableApart here part (fun tag starts => absurd starts (noStart tag)) stays

/-! ## Cells -/

theorem holders_cell {name : String} (cell : name ∈ cells) :
    holders name = ["tr"] ∧ name ∉ ["html", "table"] := by
  have all : ∀ name ∈ cells, holders name = ["tr"] ∧ name ∉ ["html", "table"] := by decide
  exact all name cell

theorem SoundIn.closeCell (sound : SoundIn [] mode fostering region builder)
    (here : region.isAnyOf cells = true) :
    Settled fostering .inRow (Table.closeCell builder) := by
  have cell := holders_cell (Element.name_mem_of_isAnyOf here)
  rcases sound.closePart (isAnyOf_of_noRegion (by decide)) here cell.2 with ⟨row, holds, closed⟩
  rw [cell.1] at holds
  exact ⟨row, closed.clearToMarker.goTo .inRow, holds⟩

theorem reaches_append_eq_false {scope : Element.Scope} {test : Element → Bool}
    {inner rest : List Element} (apart : ∀ element ∈ inner, test element = false)
    (shut : reaches scope test rest = false) : reaches scope test (inner ++ rest) = false := by
  induction inner with
  | nil => exact shut
  | cons element inner induction =>
      rw [List.forall_mem_cons] at apart
      rw [List.cons_append, reaches, apart.1, induction apart.2, Bool.and_false]
      rfl

/-- A cell of the other kind is outside of the table, if there is one. -/
theorem SoundIn.cell_named (sound : SoundIn [] mode fostering region builder)
    (here : region.isAnyOf cells = true) {name : String} (cell : name ∈ cells)
    (reached : Table.inTableScope [name] builder = true) : region.name = name := by
  by_contra different
  have holds := holders_cell (Element.name_mem_of_isAnyOf here)
  have spine := sound.spine
  rcases sound.mem_region with ⟨inner, outer, stack, noRegion⟩
  have regionSpine : IsSpine (region :: outer) := by
    rw [stack] at spine
    exact spine.of_suffix (List.suffix_append inner _)
  have held := regionSpine.2.1.held (Element.name_mem_of_isAnyOf sound.isRegion) holds.2
  rcases isRegion_of_held held with ⟨row, rest, rfl, isRow, rowHeld⟩
  rw [holds.1] at rowHeld
  rcases exists_table regionSpine.2.2 (region?_cons isRow rest)
      (Element.isAnyOf_of_subset (by decide) rowHeld) with
    ⟨parts, table, beyond, split, named, noCell⟩
  have whole : builder.stack = (inner ++ region :: parts) ++ table :: beyond := by
    rw [stack, split]
    simp
  rw [whole] at spine
  have unnamed : ∀ element : Element, element.isHtml = true → element.name ≠ name →
      element.isAnyOf [name] = false := by
    intro element html other
    rw [Element.isAnyOf_eq html]
    exact Bool.eq_false_iff.mpr (List.contains_iff_mem.not.mpr fun member =>
      other (List.mem_singleton.mp member))
  have others : ∀ element ∈ inner ++ region :: parts, element.isAnyOf [name] = false := by
    intro element member
    have html := spine.isHtml (List.mem_append_left _ member)
    refine unnamed element html ?_
    rintro rfl
    rcases List.mem_append.mp member with inInner | inParts
    · exact notMem_regionNames html (noRegion element inInner)
        ((by decide : cells ⊆ regionNames) cell)
    · rcases List.mem_cons.mp inParts with rfl | inParts
      · exact different rfl
      · exact noCell element inParts (List.mem_cons_of_mem _ cell)
  have tableHtml : table.isHtml = true :=
    spine.isHtml (List.mem_append_right _ List.mem_cons_self)
  have shut : reaches Element.tableBounds (Element.isAnyOf [name]) (table :: beyond) = false := by
    have bounds : table.tableBounds = true := by
      rw [Element.tableBounds, Element.isAnyOf_eq tableHtml, named]
      rfl
    have noCellItself : table.isAnyOf [name] = false := by
      refine unnamed table tableHtml ?_
      rintro rfl
      rw [named] at cell
      exact absurd cell (by decide)
    rw [reaches, bounds, noCellItself]
    rfl
  rw [Table.inTableScope, inScope, whole, reaches_append_eq_false others shut] at reached
  cases reached

theorem SoundIn.endCell (sound : SoundIn [] .inCell false region builder)
    (here : region.isAnyOf cells = true) {name : String} (cell : name ∈ cells) :
    Steady false (Table.endCell name builder) := by
  rw [Table.endCell]
  split
  · rename_i reached
    have named := sound.cell_named here cell reached
    have isNamed : region.isNamed name = true := by
      rw [Element.isNamed_eq (Element.isHtml_of_isAnyOf here), named]
      exact beq_self_eq_true name
    have all : ∀ name ∈ cells, name ∈ regionNames := by decide
    have holds := holders_cell (Element.name_mem_of_isAnyOf here)
    rcases sound.closePart (isNamed_of_noRegion (all name cell)) isNamed holds.2 with
      ⟨row, held, closed⟩
    rw [holds.1] at held
    exact .settled .inRow ⟨row, closed.clearToMarker.goTo .inRow, held⟩
  · exact .settled .inCell ⟨region, sound, here⟩

theorem SoundIn.inCell (sound : SoundIn [] .inCell false region builder)
    (here : region.isAnyOf cells = true) {token : Token}
    (stays : builder.strays token = false) :
    (Table.inCell token builder).All (Steady false) := by
  have settled : Steady false builder := .settled .inCell ⟨region, sound, here⟩
  have shows : region.isAnyOf contentRegions = true :=
    Element.isAnyOf_of_subset (by decide) here
  have body : (∀ name, token = .endTag name → name ∉ cells) →
      (Body.inBody token builder).All (Steady false) := by
    intro apart
    exact sound.inBody here shows
      (fun name isEnd _ => isNamed_of_notMem here (apart name isEnd)) stays
  have close : ∀ condition : Bool, (if condition then Outcome.again (Table.closeCell builder)
      else .done builder).All (Steady false) := by
    intro condition
    split
    · exact .settled .inRow (sound.closeCell here)
    · exact settled
  unfold Table.inCell
  split
  · apply choose_induction (motive := fun rule : Builder → Outcome =>
      (rule builder).All (Steady false))
    · simp only [List.forall_mem_cons]
      exact ⟨fun _ => close _, List.forall_mem_nil _⟩
    · exact fun _ => body fun name different => by cases different
  · apply choose_induction (motive := fun rule : Builder → Outcome =>
      (rule builder).All (Steady false))
    · simp only [List.forall_mem_cons]
      exact ⟨fun cell => sound.endCell here cell, fun _ => settled, fun _ => close _,
        List.forall_mem_nil _⟩
    · intro unruled
      apply body
      rintro _ ⟨⟩ member
      exact unruled (List.mem_append_left _ member)
  · rename_i noStart noEnd
    exact body fun name isEnd => absurd isEnd (noEnd name)

end Builder

end ChatMarkup.Document
