import ChatMarkup.Proofs.SoundBuilding

/-!
Formatting elements keep a builder sound. They end nothing and nothing ends them, so they may be
opened again anywhere, and a block that is moved out of one stands where it might have been opened.
-/

namespace ChatMarkup.Document.Builder

variable {kept : List Element} {mode : Mode} {fostering : Bool} {region : Element}
  {builder : Builder}

/-! ## Names of formatting elements -/

theorem notMem_special {name : String} (formats : name ∈ formattingTags) : name ∉ special := by
  have all : ∀ name ∈ formattingTags, name ∉ special := by decide
  exact all name formats

theorem fits_formatting {name : String} (formats : name ∈ formattingTags) (parent : String) :
    Fits parent name :=
  fits_of_notMem
    (fun member => notMem_special formats ((by decide : Markup.paragraphClosers ⊆ special) member))
    (fun member => notMem_special formats ((by decide : itemNames ⊆ special) member)) parent

theorem formatting_fits {name : String} (formats : name ∈ formattingTags) (child : String) :
    Fits name child := by
  have all : ∀ name ∈ formattingTags, name ∉ "p" :: itemNames := by decide
  refine Bool.eq_false_iff.mpr fun closes => all name formats ?_
  rcases closesParent_eq_true closes with
    ⟨rfl, -⟩ | ⟨rfl, -⟩ | ⟨term, -⟩ | ⟨rfl, -⟩ | ⟨cell, -⟩
  · decide
  · decide
  · exact (by decide : ["dd", "dt"] ⊆ "p" :: itemNames) term
  · decide
  · exact (by decide : cells ⊆ "p" :: itemNames) cell

theorem SoundIn.isOrdinary (sound : SoundIn kept mode fostering region builder)
    (shows : region.isAnyOf contentRegions = true) {name : String} (plain : name ∉ special)
    (common : name ∉ peculiarNames) : IsOrdinary name builder.stack := by
  apply isOrdinary_of_notMem plain common
  rw [sound.region]
  exact shows

theorem SoundIn.formatting_isOrdinary (sound : SoundIn kept mode fostering region builder)
    (shows : region.isAnyOf contentRegions = true) {name : String}
    (formats : name ∈ formattingTags) : IsOrdinary name builder.stack := by
  have all : ∀ name ∈ formattingTags, name ∉ peculiarNames := by decide
  exact sound.isOrdinary shows (notMem_special formats) (all name formats)

/-! ## The list of formatting elements -/

theorem SoundIn.withEntries (sound : SoundIn kept mode fostering region builder)
    {formatting : List FormattingEntry}
    (subset : ∀ element, .element element ∈ formatting → .element element ∈ builder.formatting) :
    SoundIn kept mode fostering region { builder with formatting } := by
  rcases sound.assembled with ⟨label, assembled⟩
  have entries : ∀ element, .element element ∈ formatting →
      element.Known label builder.nextNumber ∧ element.name ∈ formattingTags :=
    fun element member => assembled.entries element (subset element member)
  exact { sound with assembled := ⟨label, assembled.withEntries entries⟩ }

theorem SoundIn.entry (sound : SoundIn kept mode fostering region builder) {element : Element}
    (member : .element element ∈ builder.formatting) : element.name ∈ formattingTags := by
  rcases sound.assembled with ⟨label, assembled⟩
  exact (assembled.entries element member).2

theorem SoundIn.forget (sound : SoundIn kept mode fostering region builder) (number : Nat) :
    SoundIn kept mode fostering region (builder.forget number) :=
  sound.withEntries fun _ member => List.mem_of_mem_eraseP member

theorem SoundIn.addMarker (sound : SoundIn kept mode fostering region builder) :
    SoundIn kept mode fostering region builder.addMarker := by
  apply sound.withEntries
  intro element member
  rcases List.mem_cons.mp member with marker | member
  · cases marker
  · exact member

theorem mem_of_mem_beforeMarker {entries : List FormattingEntry} {entry : FormattingEntry}
    (member : entry ∈ beforeMarker entries) : entry ∈ entries := by
  induction entries with
  | nil => exact member
  | cons first rest induction =>
      cases first with
      | marker => exact List.mem_cons_of_mem _ member
      | element element => exact List.mem_cons_of_mem _ (induction member)

theorem SoundIn.clearToMarker (sound : SoundIn kept mode fostering region builder) :
    SoundIn kept mode fostering region builder.clearToMarker :=
  sound.withEntries fun _ => mem_of_mem_beforeMarker

theorem mem_of_mem_sinceMarker {entries : List FormattingEntry} {element : Element}
    (member : element ∈ sinceMarker entries) : .element element ∈ entries := by
  induction entries with
  | nil => cases member
  | cons first rest induction =>
      cases first with
      | marker => cases member
      | element latest =>
          rcases List.mem_cons.mp member with rfl | member
          · exact List.mem_cons_self
          · exact List.mem_cons_of_mem _ (induction member)

/-! ## Opening formatting elements -/

theorem SoundIn.openFormatting (sound : SoundIn kept mode fostering region builder)
    (shows : region.isAnyOf contentRegions = true) {name : String}
    (formats : name ∈ formattingTags) (attributes : List Attribute) :
    SoundIn kept mode fostering region (builder.openFormatting name attributes) := by
  have ordinary := sound.formatting_isOrdinary shows formats
  rcases sound.assembled with ⟨label, assembled⟩
  rcases exists_openIn assembled (.of_ordinary sound.spine ordinary) (.ordinary ordinary)
    attributes with ⟨trees, opened, more⟩
  have entries : ∀ element,
      .element element ∈ .element (builder.fresh .html name attributes) :: builder.formatting →
        element.Known (Function.update label builder.nextNumber name) (builder.nextNumber + 1) ∧
          element.name ∈ formattingTags := by
    intro element member
    rcases List.mem_cons.mp member with first | member
    · cases first
      exact ⟨known_fresh label name attributes builder, formats⟩
    · exact more.entries element member
  rw [Builder.openFormatting, opened]
  exact { sound with
    region := (sameOutlook_cons rfl (notMem_special formats) builder.stack).region.trans
      sound.region
    assembled := ⟨_, more.withEntries entries⟩ }

theorem splitClosed_subset (stack : List Element) (entries : List FormattingEntry) :
    (∀ element ∈ (splitClosed stack entries).1, .element element ∈ entries) ∧
      ∀ entry ∈ (splitClosed stack entries).2, entry ∈ entries := by
  induction entries with
  | nil => exact ⟨List.forall_mem_nil _, List.forall_mem_nil _⟩
  | cons first rest induction =>
      cases first with
      | marker => exact ⟨List.forall_mem_nil _, fun entry member => member⟩
      | element element =>
          rw [splitClosed]
          split
          · exact ⟨List.forall_mem_nil _, fun entry member => member⟩
          · refine ⟨List.forall_mem_cons.mpr ⟨List.mem_cons_self, ?_⟩, ?_⟩
            · exact fun other member => List.mem_cons_of_mem _ (induction.1 other member)
            · exact fun entry member => List.mem_cons_of_mem _ (induction.2 entry member)

theorem SoundIn.foldl_reopen (shows : region.isAnyOf contentRegions = true)
    {elements : List Element} (formats : ∀ element ∈ elements, element.name ∈ formattingTags)
    (sound : SoundIn kept mode fostering region builder) :
    SoundIn kept mode fostering region (elements.foldl reopen builder) := by
  induction elements generalizing builder with
  | nil => exact sound
  | cons element rest induction =>
      rw [List.forall_mem_cons] at formats
      exact induction formats.2 (sound.openFormatting shows formats.1 element.attributes)

theorem SoundIn.reconstruct (sound : SoundIn kept mode fostering region builder)
    (shows : region.isAnyOf contentRegions = true) :
    SoundIn kept mode fostering region builder.reconstruct := by
  rcases splitClosed_subset builder.stack builder.formatting with ⟨closed, others⟩
  apply SoundIn.foldl_reopen shows
  · intro element member
    exact sound.entry (closed element (List.mem_reverse.mp member))
  · exact sound.withEntries fun element member => others _ member

theorem SoundIn.insertFormatting (sound : SoundIn kept mode fostering region builder)
    (shows : region.isAnyOf contentRegions = true) {tag : Tag}
    (formats : tag.name ∈ formattingTags) :
    SoundIn kept mode fostering region (builder.insertFormatting tag) := by
  rw [Builder.insertFormatting]
  split
  · split
    · exact (sound.forget _).openFormatting shows formats tag.attributes
    · exact sound.openFormatting shows formats tag.attributes
  · exact sound.openFormatting shows formats tag.attributes

/-! ## An end tag that is not at its place -/

/-- Such a tag closes no region but the latest, and that only by its own name. -/
theorem sheds_outsideUnlessSpecial {name : String} {stack rest : List Element}
    (different : (region? stack).any (Element.isNamed name) = false)
    (closes : outsideUnlessSpecial name stack = some rest) : Sheds stack rest := by
  induction stack with
  | nil => cases closes
  | cons element outer induction =>
      rw [outsideUnlessSpecial] at closes
      rw [region?, List.find?_cons] at different
      split at closes
      · rename_i named
        cases closes
        apply sheds_tail
        cases isRegion : element.isRegion with
        | false => rfl
        | true =>
            rw [isRegion] at different
            exact absurd named (Bool.eq_false_iff.mp different)
      split at closes
      · cases closes
      · rename_i plain
        have noRegion : element.isRegion = false := by
          refine Bool.eq_false_iff.mpr fun isRegion => plain ?_
          exact Element.isAnyOf_of_subset (by decide) isRegion
        rw [noRegion] at different
        exact (sheds_tail noRegion).trans (induction different closes)

theorem SoundIn.closeOther (sound : SoundIn kept mode fostering region builder) {name : String}
    (different : region.isNamed name = false) :
    SoundIn kept mode fostering region (builder.closeOther name) := by
  have notLatest : (region? builder.stack).any (Element.isNamed name) = false := by
    rw [sound.region]
    exact different
  rw [Builder.closeOther]
  split
  · rename_i closes
    exact sound.shed (sheds_outsideUnlessSpecial notLatest closes)
  · exact sound

end ChatMarkup.Document.Builder
