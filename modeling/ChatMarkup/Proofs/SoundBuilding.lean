import ChatMarkup.Proofs.OpenScopes

/-!
Building that leaves nothing misnested. A sound builder has nested trees, and open elements each of
which may stand in those before it. The operations that all rules are made of keep a builder sound
where what they open may be opened.
-/

namespace ChatMarkup.Document

def formattingTags : List String := "a" :: "nobr" :: Body.formattingNames

/-- Elements of a page that is being built, as far as nesting depends on them. The labels keep the
names of some more elements, which may have been closed. -/
structure Assembled (kept : List Element) (label : Nat → String) (bound : Nat)
    (trees : List Tree) (stack : List Element) (formatting : List FormattingEntry)
    (head? : Option Element) (form? : Option Nat) : Prop where
  nested : Tree.AllNested label bound trees
  spine : IsSpine stack
  known : ∀ element ∈ stack, element.Known label bound
  entries : ∀ element, .element element ∈ formatting →
    element.Known label bound ∧ element.name ∈ formattingTags
  head : ∀ head, head? = some head →
    head.isHtml = true ∧ head.Known label bound ∧ head.name = "head"
  form : ∀ number, form? = some number → number < bound ∧ label number = "form"
  keeps : ∀ element ∈ kept, element.Known label bound

section Assembled

variable {kept : List Element} {label before : Nat → String} {bound number : Nat}
  {trees : List Tree} {stack : List Element} {formatting : List FormattingEntry}
  {head? : Option Element} {form? : Option Nat}

theorem Assembled.extend (assembled : Assembled kept before bound trees stack formatting head? form?)
    (goesOn : Extends before bound label number) :
    Assembled kept label number trees stack formatting head? form? where
  nested := assembled.nested.extend goesOn
  spine := assembled.spine
  known element member := (assembled.known element member).extend goesOn
  entries element member :=
    have entry := assembled.entries element member
    ⟨entry.1.extend goesOn, entry.2⟩
  head head found :=
    have known := assembled.head head found
    ⟨known.1, known.2.1.extend goesOn, known.2.2⟩
  form number found :=
    have pointed := assembled.form number found
    ⟨Nat.lt_of_lt_of_le pointed.1 goesOn.more, (goesOn.same number pointed.1).trans pointed.2⟩
  keeps element member := (assembled.keeps element member).extend goesOn

theorem Assembled.withTrees (assembled : Assembled kept label bound trees stack formatting head? form?)
    {changed : List Tree} (nested : Tree.AllNested label bound changed) :
    Assembled kept label bound changed stack formatting head? form? :=
  { assembled with nested }

theorem Assembled.withSuffix (assembled : Assembled kept label bound trees stack formatting head? form?)
    {rest : List Element} (suffix : rest <:+ stack) :
    Assembled kept label bound trees rest formatting head? form? :=
  { assembled with
    spine := assembled.spine.of_suffix suffix
    known := fun element member => assembled.known element (suffix.mem member) }

theorem Assembled.push (assembled : Assembled kept label bound trees stack formatting head? form?)
    {element : Element} (html : element.isHtml = true) (known : element.Known label bound)
    (stands : StandsIn element.name stack) :
    Assembled kept label bound trees (element :: stack) formatting head? form? :=
  { assembled with
    spine := ⟨html, stands, assembled.spine⟩
    known := List.forall_mem_cons.mpr ⟨known, assembled.known⟩ }

theorem Assembled.withEntries
    (assembled : Assembled kept label bound trees stack formatting head? form?)
    {changed : List FormattingEntry}
    (entries : ∀ element, .element element ∈ changed →
      element.Known label bound ∧ element.name ∈ formattingTags) :
    Assembled kept label bound trees stack changed head? form? :=
  { assembled with entries }

theorem Assembled.keep (assembled : Assembled kept label bound trees stack formatting head? form?)
    {element : Element} (known : element.Known label bound) :
    Assembled (element :: kept) label bound trees stack formatting head? form? :=
  { assembled with keeps := List.forall_mem_cons.mpr ⟨known, assembled.keeps⟩ }

end Assembled

namespace Builder

structure Situation (kept : List Element) (mode : Mode) (fostering : Bool) (region : Element)
    (builderMode : Mode) (builderFosters : Bool) (templateModes : List Mode) (tableText : List Token)
    (trees : List Tree) (stack : List Element) (formatting : List FormattingEntry)
    (head? : Option Element) (form? : Option Nat) (number : Nat) : Prop where
  mode : builderMode = mode
  fosters : builderFosters = fostering
  noTemplate : templateModes = []
  stretches : ∀ token ∈ tableText, (∃ content, token = .space content) ∨
    ∃ content, token = .text content
  region : region? stack = some region
  assembled : ∃ label, Assembled kept label number trees stack formatting head? form?

/-- Nothing else of the builder matters. -/
def SoundIn (kept : List Element) (mode : Mode) (fostering : Bool) (region : Element)
    (builder : Builder) : Prop :=
  Situation kept mode fostering region builder.mode builder.fostering builder.templateModes
    builder.tableText builder.trees builder.stack builder.formatting builder.headElement builder.form
    builder.nextNumber

variable {kept : List Element} {mode : Mode} {fostering : Bool} {region : Element}
  {builder : Builder}

theorem SoundIn.spine (sound : SoundIn kept mode fostering region builder) : IsSpine builder.stack := by
  rcases sound.assembled with ⟨label, assembled⟩
  exact assembled.spine

/-- Elements are closed that are no regions. -/
theorem SoundIn.shed (sound : SoundIn kept mode fostering region builder) {rest : List Element}
    (sheds : Sheds builder.stack rest) :
    SoundIn kept mode fostering region { builder with stack := rest } := by
  rcases sound.assembled with ⟨label, assembled⟩
  exact { sound with
    region := sheds.region.trans sound.region
    assembled := ⟨label, assembled.withSuffix sheds.suffix⟩ }

theorem SoundIn.withTrees (sound : SoundIn kept mode fostering region builder) {trees : List Tree}
    (nested : ∀ label, Tree.AllNested label builder.nextNumber builder.trees →
      Tree.AllNested label builder.nextNumber trees) :
    SoundIn kept mode fostering region { builder with trees } := by
  rcases sound.assembled with ⟨label, assembled⟩
  exact { sound with assembled := ⟨label, assembled.withTrees (nested label assembled.nested)⟩ }

theorem exists_of_currentIs {test : Element → Bool} (current : builder.currentIs test = true) :
    ∃ element outer, builder.stack = element :: outer ∧ test element = true := by
  rw [currentIs] at current
  cases stack : builder.stack with
  | nil => rw [stack] at current; cases current
  | cons element outer => rw [stack] at current; exact ⟨element, outer, rfl, current⟩

/-! ## Places -/

def Suits (label : Nat → String) (tree : Tree) : Option Place → Prop
  | none => True
  | some (.inside number) => tree.FitsIn (label number)
  | some (.before table opened) =>
    tree.FitsBeside (label table) ∧ ∀ number, opened = some number → tree.FitsIn (label number)

theorem exists_insertAt {label : Nat → String} {bound : Nat} {place : Option Place} {tree : Tree}
    (suits : Suits label tree place) (treeNested : tree.Nested label bound)
    (nested : Tree.AllNested label bound builder.trees) :
    ∃ trees, builder.insertAt place tree = { builder with trees } ∧
      Tree.AllNested label bound trees := by
  unfold insertAt
  split
  · exact ⟨builder.trees, rfl, nested⟩
  · exact ⟨_, rfl, Tree.allNested_appendTo treeNested suits nested⟩
  · split
    · rename_i found
      exact ⟨_, rfl, (Tree.replaces_insertBeforeAny treeNested suits.1 found nested).nested⟩
    · exact ⟨_, rfl, Tree.allNested_appendTo treeNested (suits.2 _ rfl) nested⟩
    · exact ⟨builder.trees, rfl, nested⟩

theorem fitsIn_of_forall {tree : Tree} {parent : String} (takes : ∀ child, Fits parent child) :
    tree.FitsIn parent := by
  cases tree with
  | element owner children => exact takes owner.name
  | _ => trivial

/-- Right outside of a table there is room for what fits beside it, or for everything. -/
theorem suits_fosterPlace {label : Nat → String} {bound : Nat} {stack : List Element} {tree : Tree}
    (beside : tree.FitsBeside "table") (spine : IsSpine stack)
    (known : ∀ element ∈ stack, element.Known label bound) :
    Suits label tree (fosterPlace stack) := by
  cases found : fosterPlace stack with
  | none => trivial
  | some place =>
      rcases fosterPlace_cases spine found with
        ⟨root, member, named, rfl⟩ | ⟨table, member, opened, openedMember, named, noParagraph, rfl⟩
      · rw [Suits, (known root member).named, named]
        exact fitsIn_of_forall fun _ => rfl
      · rw [Suits, (known table member).named, named]
        refine ⟨beside, ?_⟩
        rintro number ⟨⟩
        rw [(known opened openedMember).named]
        exact beside _ (fits_of_ne noParagraph (by decide))

theorem suits_placeIn {label : Nat → String} {bound : Nat} {target : Element} {tree : Tree}
    (fits : tree.FitsIn target.name)
    (beside : builder.fostering = true → target.isAnyOf tableParts = true →
      tree.FitsBeside "table")
    (targetKnown : target.Known label bound) (spine : IsSpine builder.stack)
    (known : ∀ element ∈ builder.stack, element.Known label bound) :
    Suits label tree (builder.placeIn target) := by
  rw [placeIn]
  split
  · rename_i away
    rw [Bool.and_eq_true] at away
    exact suits_fosterPlace (beside away.1 away.2) spine known
  · rw [Suits, targetKnown.named]
    exact fits

/-- A node of the page, with room for an element called `name`. -/
structure Welcomes (name : String) (builder : Builder) : Prop where
  fits : ∀ current, builder.stack.head? = some current → Fits current.name name
  beside : builder.fostering = true → builder.currentIs (Element.isAnyOf tableParts) = true →
    name ∉ itemNames

theorem suits_place {label : Nat → String} {bound : Nat} {tree : Tree}
    (fits : ∀ current, builder.stack.head? = some current → tree.FitsIn current.name)
    (beside : builder.fostering = true →
      builder.currentIs (Element.isAnyOf tableParts) = true → tree.FitsBeside "table")
    (spine : IsSpine builder.stack)
    (known : ∀ element ∈ builder.stack, element.Known label bound) :
    Suits label tree builder.place := by
  rw [place]
  cases found : builder.stack.head? with
  | none => trivial
  | some current =>
      refine suits_placeIn (fits current found) (fun fosters part => beside fosters ?_)
        (known current (List.mem_of_head? found)) spine known
      rw [currentIs, found]
      exact part

/-- Nodes that are no elements fit everywhere. -/
theorem SoundIn.insertTree (sound : SoundIn kept mode fostering region builder) {tree : Tree}
    (nested : ∀ label bound, tree.Nested label bound) (fits : ∀ parent, tree.FitsIn parent) :
    SoundIn kept mode fostering region (builder.insertTree tree) := by
  rcases sound.assembled with ⟨label, assembled⟩
  rcases exists_insertAt
      (suits_place (fun current _ => fits current.name) (fun _ _ parent _ => fits parent)
        assembled.spine assembled.known)
      (nested label _) assembled.nested with ⟨trees, inserted, treesNested⟩
  rw [Builder.insertTree, inserted]
  exact { sound with assembled := ⟨label, assembled.withTrees treesNested⟩ }

theorem SoundIn.insertText (sound : SoundIn kept mode fostering region builder) (content : List Char) :
    SoundIn kept mode fostering region (builder.insertText content) :=
  sound.insertTree (fun _ _ => trivial) (fun _ => trivial)

theorem SoundIn.insertComment (sound : SoundIn kept mode fostering region builder)
    (content : List Char) : SoundIn kept mode fostering region (builder.insertComment content) :=
  sound.insertTree (fun _ _ => trivial) (fun _ => trivial)

/-! ## Opening elements -/

theorem known_fresh (label : Nat → String) (name : String) (attributes : List Attribute)
    (builder : Builder) :
    (builder.fresh .html name attributes).Known
      (Function.update label builder.nextNumber name) (builder.nextNumber + 1) :=
  ⟨Nat.lt_succ_self _, Function.update_self ..⟩

theorem exists_insertElement {label : Nat → String} {name : String}
    (assembled : Assembled kept label builder.nextNumber builder.trees builder.stack builder.formatting
      builder.headElement builder.form)
    (welcomes : Welcomes name builder) (attributes : List Attribute) :
    ∃ trees,
      builder.insertTree (.element (builder.fresh .html name attributes) []) =
        { builder with trees } ∧
      Assembled kept (Function.update label builder.nextNumber name) (builder.nextNumber + 1) trees
        builder.stack builder.formatting builder.headElement builder.form := by
  have more := assembled.extend (extends_label label builder.nextNumber name)
  have known := known_fresh label name attributes builder
  have suits : Suits (Function.update label builder.nextNumber name)
      (.element (builder.fresh .html name attributes) []) builder.place := by
    apply suits_place welcomes.fits _ more.spine more.known
    intro fosters part parent fits
    exact fits_of_ne (ne_paragraph_of_fits_table fits) (welcomes.beside fosters part)
  rcases exists_insertAt suits (Tree.nested_leaf known) more.nested with ⟨trees, inserted, nested⟩
  exact ⟨trees, inserted, more.withTrees nested⟩

/-- Opening an element does nothing else. -/
theorem exists_openIn {label : Nat → String} {name : String}
    (assembled : Assembled kept label builder.nextNumber builder.trees builder.stack builder.formatting
      builder.headElement builder.form)
    (welcomes : Welcomes name builder) (stands : StandsIn name builder.stack)
    (attributes : List Attribute) :
    ∃ trees,
      builder.openIn .html name attributes =
        { builder with
          trees
          stack := builder.fresh .html name attributes :: builder.stack
          nextNumber := builder.nextNumber + 1 } ∧
      Assembled kept (Function.update label builder.nextNumber name) (builder.nextNumber + 1) trees
        (builder.fresh .html name attributes :: builder.stack) builder.formatting
        builder.headElement builder.form := by
  rcases exists_insertElement assembled welcomes attributes with ⟨trees, inserted, more⟩
  refine ⟨trees, ?_, more.push rfl (known_fresh label name attributes builder) stands⟩
  rw [openIn, inserted]

theorem Welcomes.of_stands {name : String} (spine : IsSpine builder.stack)
    (stands : StandsIn name builder.stack)
    (apart : builder.fostering = true → name ∉ itemNames) : Welcomes name builder where
  fits current found := by
    rcases List.head?_eq_some_iff.mp found with ⟨outer, stack⟩
    rw [stack] at stands spine
    exact stands.fits spine.1
  beside fosters _ := apart fosters

theorem Welcomes.of_ordinary {name : String} (spine : IsSpine builder.stack)
    (ordinary : IsOrdinary name builder.stack) : Welcomes name builder where
  fits current found := by
    rcases List.head?_eq_some_iff.mp found with ⟨outer, stack⟩
    rw [stack] at ordinary spine
    exact (StandsIn.ordinary ordinary).fits spine.1
  beside _ part := by
    rcases exists_of_currentIs part with ⟨current, outer, stack, part⟩
    rw [stack] at ordinary
    exact ordinary.notMem_itemNames part

/-- Elements that end nothing are welcome everywhere. -/
theorem Welcomes.of_notMem {name : String} (noCloser : name ∉ Markup.paragraphClosers)
    (noItem : name ∉ itemNames) (builder : Builder) : Welcomes name builder :=
  ⟨fun _ _ => fits_of_notMem noCloser noItem _, fun _ _ => noItem⟩

/-- An ordinary element that is no region leaves the region as it is. -/
theorem SoundIn.openIn (sound : SoundIn kept mode fostering region builder) {name : String}
    (noRegion : name ∉ regionNames) (ordinary : IsOrdinary name builder.stack)
    (attributes : List Attribute) :
    SoundIn kept mode fostering region (builder.openIn .html name attributes) := by
  rcases sound.assembled with ⟨label, assembled⟩
  rcases exists_openIn assembled (.of_ordinary sound.spine ordinary) (.ordinary ordinary)
    attributes with ⟨trees, opened, more⟩
  have sheds : Sheds (builder.fresh .html name attributes :: builder.stack) builder.stack := by
    apply sheds_tail
    rw [Element.isRegion, Element.isAnyOf_eq rfl]
    exact Bool.eq_false_iff.mpr (List.contains_iff_mem.not.mpr noRegion)
  rw [opened]
  exact { sound with
    region := sheds.region.symm.trans sound.region
    assembled := ⟨_, more⟩ }

theorem SoundIn.insert (sound : SoundIn kept mode fostering region builder) {tag : Tag}
    (noRegion : tag.name ∉ regionNames) (ordinary : IsOrdinary tag.name builder.stack) :
    SoundIn kept mode fostering region (builder.insert tag) :=
  sound.openIn noRegion ordinary tag.attributes

/-- An element without content is closed at once, and remembered. -/
theorem SoundIn.insertVoid_kept (sound : SoundIn kept mode fostering region builder) {tag : Tag}
    (welcomes : Welcomes tag.name builder) :
    SoundIn (builder.fresh .html tag.name tag.attributes :: kept) mode fostering region
      (builder.insertVoid tag) := by
  rcases sound.assembled with ⟨label, assembled⟩
  rcases exists_insertElement assembled welcomes tag.attributes with ⟨trees, inserted, more⟩
  rw [Builder.insertVoid, Builder.insert, Builder.openIn, inserted]
  exact { sound with assembled := ⟨_, more.keep (known_fresh label _ _ builder)⟩ }

theorem SoundIn.drop {element : Element}
    (sound : SoundIn (element :: kept) mode fostering region builder) :
    SoundIn kept mode fostering region builder := by
  rcases sound.assembled with ⟨label, assembled⟩
  exact { sound with
    assembled := ⟨label, { assembled with keeps := (List.forall_mem_cons.mp assembled.keeps).2 }⟩ }

theorem SoundIn.insertVoid (sound : SoundIn kept mode fostering region builder) {tag : Tag}
    (welcomes : Welcomes tag.name builder) :
    SoundIn kept mode fostering region (builder.insertVoid tag) :=
  (sound.insertVoid_kept welcomes).drop

/-- A form that is open, or remembered, becomes the form that its end tag closes. -/
theorem SoundIn.pointTo (sound : SoundIn kept mode fostering region builder) {form : Element}
    (known : form ∈ builder.stack ∨ form ∈ kept) (named : form.name = "form") :
    SoundIn kept mode fostering region { builder with form := some form.number } := by
  rcases sound.assembled with ⟨label, assembled⟩
  have formKnown := known.elim (assembled.known form) (assembled.keeps form)
  refine { sound with assembled := ⟨label, { assembled with form := ?_ }⟩ }
  rintro number ⟨⟩
  exact ⟨formKnown.below, formKnown.named.trans named⟩

theorem SoundIn.forgetForm (sound : SoundIn kept mode fostering region builder) :
    SoundIn kept mode fostering region { builder with form := none } := by
  rcases sound.assembled with ⟨label, assembled⟩
  have noForm : ∀ number, none = some number → number < builder.nextNumber ∧
      label number = "form" := fun number none => by cases none
  exact { sound with assembled := ⟨label, { assembled with form := noForm }⟩ }

/-! ## Closing elements -/

theorem bounds_le_buttonBounds (element : Element) (bounds : element.bounds = true) :
    element.buttonBounds = true := by
  rw [Element.buttonBounds, bounds, Bool.or_true]

theorem bounds_le_itemBounds (element : Element) (bounds : element.bounds = true) :
    element.itemBounds = true := by
  rw [Element.itemBounds, bounds, Bool.or_true]

theorem isRegion_eq_false_of_isAnyOf {element : Element} {names : List String}
    (noRegion : ∀ name ∈ names, name ∉ regionNames) (any : element.isAnyOf names = true) :
    element.isRegion = false := by
  rw [Element.isRegion, Element.isAnyOf_eq (Element.isHtml_of_isAnyOf any)]
  exact Bool.eq_false_iff.mpr (List.contains_iff_mem.not.mpr
    (noRegion _ (Element.name_mem_of_isAnyOf any)))

theorem isRegion_of_isAnyOf_impliedEnds (element : Element)
    (implied : element.isAnyOf impliedEnds = true) : element.isRegion = false :=
  isRegion_eq_false_of_isAnyOf (by decide) implied

theorem SoundIn.closeImpliedExcept (sound : SoundIn kept mode fostering region builder)
    (name : String) : SoundIn kept mode fostering region (builder.closeImpliedExcept name) :=
  sound.shed (sheds_dropWhile
    (fun element drops => isRegion_of_isAnyOf_impliedEnds element (Bool.and_eq_true_iff.mp drops).1)
    builder.stack)

theorem SoundIn.closeImplied (sound : SoundIn kept mode fostering region builder) :
    SoundIn kept mode fostering region builder.closeImplied :=
  sound.shed (sheds_dropWhile isRegion_of_isAnyOf_impliedEnds builder.stack)

theorem stack_closeNamed (name : String) (builder : Builder) :
    (builder.closeNamed name).stack = outside (Element.isNamed name) builder.stack := by
  apply outside_dropWhile
  intro element drops
  rw [Bool.and_eq_true, bne_iff_ne] at drops
  rw [Element.isNamed_eq (Element.isHtml_of_isAnyOf drops.1)]
  exact beq_eq_false_iff_ne.mpr drops.2

/-- An end tag closes an element that is no region. -/
theorem SoundIn.closeThrough (sound : SoundIn kept mode fostering region builder)
    {scope : Element.Scope} {test : Element → Bool}
    (bounded : ∀ element, element.bounds = true → scope element = true)
    (noRegion : ∀ element ∈ builder.stack, element.isRegion = true → test element = false)
    (reached : builder.inScope scope test = true) :
    SoundIn kept mode fostering region (builder.closeThrough test) :=
  sound.shed (sheds_outside bounded noRegion sound.spine reached)

theorem SoundIn.closeNamed (sound : SoundIn kept mode fostering region builder) {name : String}
    {scope : Element.Scope} (bounded : ∀ element, element.bounds = true → scope element = true)
    (noRegion : name ∉ regionNames)
    (reached : builder.inScope scope (Element.isNamed name) = true) :
    SoundIn kept mode fostering region (builder.closeNamed name) := by
  have closed := sound.closeThrough bounded
    (fun element _ region => isRegion_of_isNamed noRegion region) reached
  have same : builder.closeNamed name = builder.closeThrough (Element.isNamed name) := by
    rw [Builder.closeThrough, ← stack_closeNamed]
    rfl
  rw [same]
  exact closed

theorem SoundIn.pop (sound : SoundIn kept mode fostering region builder) {test : Element → Bool}
    (current : builder.currentIs test = true)
    (noRegion : ∀ element, test element = true → element.isRegion = false) :
    SoundIn kept mode fostering region builder.pop := by
  rcases exists_of_currentIs current with ⟨element, outer, stack, passes⟩
  refine sound.shed ?_
  rw [stack]
  exact sheds_tail (noRegion _ passes)

/-- After the paragraph is closed none is left, and open items are found as before. -/
theorem SoundIn.closeParagraph (sound : SoundIn kept mode fostering region builder) :
    SoundIn kept mode fostering region builder.closeParagraph ∧
      holdsParagraph builder.closeParagraph.stack = false ∧
      searchEnd? builder.closeParagraph.stack = searchEnd? builder.stack := by
  rw [Builder.closeParagraph]
  split
  · rename_i reached
    rw [stack_closeNamed]
    exact ⟨sound.closeNamed bounds_le_buttonBounds (by decide) reached,
      (outside_paragraph sound.spine reached).2⟩
  · rename_i none
    exact ⟨sound, Bool.eq_false_iff.mpr none, rfl⟩

end Builder

end ChatMarkup.Document
