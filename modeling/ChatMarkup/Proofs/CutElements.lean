import ChatMarkup.Proofs.SoundFormatting

/-!
Cutting a formatting element in two at a block. The block moves to where the formatting element
was, and what was opened in between ends nothing, so that every element stands as before.
-/

namespace ChatMarkup.Document.Builder

variable {kept : List Element} {mode : Mode} {fostering : Bool} {region : Element}
  {builder : Builder}

theorem fitsIn_of_formatting {name : String} (formats : name ∈ formattingTags) (tree : Tree) :
    tree.FitsIn name :=
  fitsIn_of_forall (formatting_fits formats)

structure ChainSound (kept : List Element) (builder : Builder) (block : Element) (label : Nat → String)
    (chain : Chain) : Prop where
  same : chain.builder =
    { builder with
      trees := chain.builder.trees
      formatting := chain.builder.formatting
      nextNumber := chain.builder.nextNumber }
  assembled : Assembled kept label chain.builder.nextNumber chain.builder.trees builder.stack
    chain.builder.formatting builder.headElement builder.form
  nested : chain.tree.Nested label chain.builder.nextNumber
  fits : ∀ parent, Fits parent block.name → chain.tree.FitsIn parent
  copies : ∀ copy ∈ chain.copies, copy.isHtml = true ∧
    copy.Known label chain.builder.nextNumber ∧ copy.name ∈ formattingTags

theorem hasNumber_eq_true {number : Nat} {entry : FormattingEntry}
    (there : FormattingEntry.hasNumber number entry = true) :
    ∃ element, entry = .element element ∧ element.number = number := by
  cases entry with
  | marker => cases there
  | element element => exact ⟨element, rfl, beq_iff_eq.mp there⟩

/-- An open element with the number of an entry has the name of a formatting element. -/
theorem formats_of_number_eq {label : Nat → String} {bound : Nat} {trees : List Tree}
    {stack : List Element} {formatting : List FormattingEntry} {head? : Option Element}
    {form? : Option Nat}
    (assembled : Assembled kept label bound trees stack formatting head? form?)
    {element entry : Element} (isOpen : element ∈ stack)
    (entered : .element entry ∈ formatting) (same : element.number = entry.number) :
    element.name ∈ formattingTags := by
  have known := assembled.entries entry entered
  rw [(assembled.known element isOpen).name_eq known.1 same]
  exact known.2

theorem ChainSound.step {block element : Element} {label : Nat → String} {chain : Chain}
    (sound : ChainSound kept builder block label chain) (isOpen : element ∈ builder.stack) :
    ∃ next, ChainSound kept builder block next (chain.step element) := by
  rw [Chain.step]
  split
  · refine ⟨label, { sound with same := ?_, assembled := ?_ }⟩
    · rw [Builder.forget, sound.same]
    · exact sound.assembled.withEntries fun other member =>
        sound.assembled.entries other (List.mem_of_mem_eraseP member)
  split
  · exact ⟨label, { sound with }⟩
  · rename_i isEntry
    rw [Bool.not_eq_true, Bool.not_eq_false', List.any_eq_true] at isEntry
    rcases isEntry with ⟨entry, entered, there⟩
    rcases hasNumber_eq_true there with ⟨original, rfl, number⟩
    have formats := formats_of_number_eq sound.assembled isOpen entered number.symm
    have goesOn := extends_label label chain.builder.nextNumber element.name
    have known := known_fresh label element.name element.attributes chain.builder
    have assembled := sound.assembled.extend goesOn
    refine ⟨_, ?_, assembled.withEntries ?_, ?_, ?_, ?_⟩
    · rw [sound.same]
    · intro other member
      rcases List.mem_map.mp member with ⟨before, inEntries, exchanged⟩
      split at exchanged
      · cases exchanged
        exact ⟨known, formats⟩
      · subst exchanged
        exact assembled.entries other inEntries
    · refine ⟨known, ?_, sound.nested.extend goesOn, trivial⟩
      intro child member
      cases List.mem_singleton.mp member
      exact fitsIn_of_formatting formats _
    · exact fun parent _ => fits_formatting formats parent
    · intro copy member
      rcases List.mem_cons.mp member with rfl | member
      · exact ⟨rfl, known, formats⟩
      · rcases sound.copies copy member with ⟨html, copyKnown, copyFormats⟩
        exact ⟨html, copyKnown.extend goesOn, copyFormats⟩

theorem ChainSound.foldl_step {block : Element} {between : List Element}
    (isOpen : ∀ element ∈ between, element ∈ builder.stack) {label : Nat → String} {chain : Chain}
    (sound : ChainSound kept builder block label chain) :
    ∃ next, ChainSound kept builder block next (between.foldl Chain.step chain) := by
  induction between generalizing label chain with
  | nil => exact ⟨label, sound⟩
  | cons element rest induction =>
      rw [List.forall_mem_cons] at isOpen
      rcases sound.step isOpen.1 with ⟨next, stepped⟩
      exact induction isOpen.2 stepped

theorem mem_enterAfter {number : Nat} {added entry : FormattingEntry}
    {entries : List FormattingEntry} (member : entry ∈ enterAfter number added entries) :
    entry = added ∨ entry ∈ entries := by
  induction entries with
  | nil => cases member
  | cons first rest induction =>
      rw [enterAfter] at member
      split at member
      · exact List.mem_cons.mp member
      · rcases List.mem_cons.mp member with rfl | member
        · exact .inr List.mem_cons_self
        · exact (induction member).imp_right (List.mem_cons_of_mem first)

theorem mem_enterHalf {old half element : Element} {innermost : Option Element}
    {entries : List FormattingEntry}
    (member : .element element ∈ enterHalf old half innermost entries) :
    element = half ∨ .element element ∈ entries := by
  unfold enterHalf at member
  split at member
  · rcases mem_enterAfter (List.mem_of_mem_eraseP member) with added | member
    · exact .inl (FormattingEntry.element.inj added)
    · exact .inr member
  · rcases List.mem_map.mp member with ⟨entry, inEntries, exchanged⟩
    split at exchanged
    · exact .inl (FormattingEntry.element.inj exchanged).symm
    · rw [← exchanged]
      exact .inr inEntries

theorem exists_detached {label : Nat → String} {bound : Nat} {trees : List Tree} {block : Element}
    (known : block.Known label bound) (nested : Tree.AllNested label bound trees) :
    ∃ detached : Tree.Detached (List Tree),
      (Tree.detachAny? block.number trees).getD ⟨.element block [], trees⟩ = detached ∧
        detached.tree.Nested label bound ∧ Tree.AllNested label bound detached.left ∧
          ∀ parent, Fits parent block.name → detached.tree.FitsIn parent := by
  refine ⟨_, rfl, ?_⟩
  cases found : Tree.detachAny? block.number trees with
  | none => exact ⟨Tree.nested_leaf known, nested, fun _ => id⟩
  | some detached =>
      rcases Tree.replaces_detachAny found nested with ⟨treeNested, there, replaces⟩
      refine ⟨treeNested, replaces.nested, fun parent fits => ?_⟩
      dsimp only [Option.getD_some]
      cases tree : detached.tree with
      | element owner children =>
          rw [tree] at treeNested there
          have sameName := treeNested.1.name_eq known (beq_iff_eq.mp there)
          rw [Tree.FitsIn, sameName]
          exact fits
      | _ => trivial

/-! ## The open elements after the cut -/

theorem isSpine_formatting (formats : List Element) {outer : List Element} (spine : IsSpine outer)
    (shows : (region? outer).any (Element.isAnyOf contentRegions) = true)
    (html : ∀ element ∈ formats, element.isHtml = true)
    (plain : ∀ element ∈ formats, element.name ∈ formattingTags) : IsSpine (formats ++ outer) := by
  induction formats with
  | nil => exact spine
  | cons element rest induction =>
      rw [List.forall_mem_cons] at html plain
      have same := sameOutlook_append html.2 (fun other member =>
        notMem_special (plain.2 other member)) outer
      have all : ∀ name ∈ formattingTags, name ∉ peculiarNames := by decide
      refine ⟨html.1, .ordinary ?_, induction html.2 plain.2⟩
      apply isOrdinary_of_notMem (notMem_special plain.1) (all _ plain.1)
      rw [← same.region] at shows
      exact shows

/-- The open elements of a page, and among them a formatting element, `found`, that is to be cut at
a block. -/
structure Cut (block found : Element) (later between outer stack : List Element) : Prop where
  stack : stack = later ++ block :: (between ++ [found] ++ outer)
  noRegion : ∀ element ∈ later ++ [block], element.isRegion = false
  plain : ∀ element ∈ between ++ [found], element.name ∉ special

section Cut

variable {block found : Element} {later between outer stack : List Element}

theorem Cut.isHtml (cuts : Cut block found later between outer stack) (spine : IsSpine stack) :
    ∀ element ∈ between ++ [found], element.isHtml = true := by
  intro element member
  apply spine.isHtml
  rw [cuts.stack]
  exact List.mem_append_right _ (List.mem_cons_of_mem _ (List.mem_append_left _ member))

theorem Cut.sameOutlook (cuts : Cut block found later between outer stack)
    (spine : IsSpine stack) : SameOutlook (between ++ [found] ++ outer) outer :=
  sameOutlook_append (cuts.isHtml spine) cuts.plain outer

theorem Cut.blockSpine (cuts : Cut block found later between outer stack)
    (spine : IsSpine stack) : IsSpine (block :: (between ++ [found] ++ outer)) := by
  apply spine.of_suffix
  rw [cuts.stack]
  exact List.suffix_append later _

theorem Cut.outerSpine (cuts : Cut block found later between outer stack)
    (spine : IsSpine stack) : IsSpine outer :=
  (cuts.blockSpine spine).2.2.of_suffix (List.suffix_append (between ++ [found]) outer)

/-- The block may be opened where the formatting element was. -/
theorem Cut.isOrdinary (cuts : Cut block found later between outer stack)
    (spine : IsSpine stack) : IsOrdinary block.name outer := by
  have stands := (cuts.blockSpine spine).2.1
  have noRegion := cuts.noRegion block (List.mem_append_right _ (List.mem_singleton_self block))
  have ordinary := stands.ordinary_of_not_region
    (notMem_regionNames (cuts.blockSpine spine).1 noRegion)
  exact ordinary.congr (cuts.sameOutlook spine)

theorem Cut.sameRegion (cuts : Cut block found later between outer stack) (spine : IsSpine stack) :
    region? outer = region? stack := by
  have sheds : Sheds stack (between ++ [found] ++ outer) :=
    ⟨later ++ [block], by rw [cuts.stack]; simp, cuts.noRegion⟩
  exact (cuts.sameOutlook spine).region.symm.trans sheds.region

/-- Copies stand outside of the block, and the second half inside of it. -/
theorem Cut.isSpine (cuts : Cut block found later between outer stack) (spine : IsSpine stack)
    (shows : (region? stack).any (Element.isAnyOf contentRegions) = true)
    (copies : List Element) (half : Element)
    (html : ∀ element ∈ half :: copies, element.isHtml = true)
    (formats : ∀ element ∈ half :: copies, element.name ∈ formattingTags) :
    IsSpine (later ++ half :: block :: (copies ++ outer)) ∧
      region? (later ++ half :: block :: (copies ++ outer)) = region? stack := by
  rw [List.forall_mem_cons] at html formats
  rw [← cuts.sameRegion spine] at shows ⊢
  have copiesSpine := isSpine_formatting copies (cuts.outerSpine spine) shows html.2 formats.2
  have copiesSame := sameOutlook_append html.2 (fun element member =>
    notMem_special (formats.2 element member)) outer
  have exchanged := (cuts.sameOutlook spine).trans copiesSame.symm
  have noRegion := List.forall_mem_append.mp cuts.noRegion
  have blockSpine : IsSpine (block :: (copies ++ outer)) :=
    IsSpine.exchange [block] exchanged (cuts.blockSpine spine) noRegion.2 copiesSpine
  have blockRegion : region? (block :: (copies ++ outer)) = region? outer :=
    (sheds_tail (noRegion.2 block (List.mem_singleton_self block))).region.symm.trans
      copiesSame.region
  have halfSame := sameOutlook_cons html.1 (notMem_special formats.1) (block :: (copies ++ outer))
  have halfSpine : IsSpine (half :: block :: (copies ++ outer)) := by
    apply isSpine_formatting [half] blockSpine
    · rw [blockRegion]
      exact shows
    · simpa using html.1
    · simpa using formats.1
  have laterSame : SameOutlook (block :: (between ++ [found] ++ outer))
      (half :: block :: (copies ++ outer)) := (exchanged.cons block).trans halfSame.symm
  have laterSheds : Sheds (later ++ half :: block :: (copies ++ outer))
      (half :: block :: (copies ++ outer)) := ⟨later, rfl, noRegion.1⟩
  refine ⟨IsSpine.exchange later laterSame ?_ noRegion.1 halfSpine, ?_⟩
  · rw [← cuts.stack]
    exact spine
  · exact laterSheds.region.symm.trans (halfSame.region.trans blockRegion)

end Cut

/-! ## The cut -/

variable {old block found : Element} {later between outer : List Element}

/-- There is room for the block outside of the formatting element. -/
theorem ChainSound.suits {label : Nat → String} {chain : Chain}
    (chained : ChainSound kept builder block label chain)
    (cuts : Cut block found later between outer builder.stack) (spine : IsSpine builder.stack) :
    Suits label chain.tree (outer.head?.bind chain.builder.placeIn) := by
  rcases chained with ⟨same, assembled, -, treeFits, -⟩
  have stackSame : chain.builder.stack = builder.stack := by rw [same]
  have ordinary := cuts.isOrdinary spine
  cases head : outer.head? with
  | none => trivial
  | some ancestor =>
      rcases List.head?_eq_some_iff.mp head with ⟨rest, rfl⟩
      have html := (cuts.outerSpine spine).1
      have ancestorOpen : ancestor ∈ builder.stack := by
        rw [cuts.stack]
        simp
      rw [← stackSame] at assembled ancestorOpen
      apply suits_placeIn (treeFits _ ((StandsIn.ordinary ordinary).fits html)) _
        (assembled.known ancestor ancestorOpen) assembled.spine assembled.known
      intro _ part parent fits
      exact treeFits parent
        (fits_of_ne (ne_paragraph_of_fits_table fits) (ordinary.notMem_itemNames part))

theorem SoundIn.cut (sound : SoundIn kept mode fostering region builder)
    (shows : region.isAnyOf contentRegions = true)
    (cuts : Cut block found later between outer builder.stack)
    (formats : old.name ∈ formattingTags) :
    SoundIn kept mode fostering region (builder.cut old block later between outer) := by
  rcases sound.assembled with ⟨label, assembled⟩
  have isOpen : ∀ element ∈ block :: between, element ∈ builder.stack := by
    intro element member
    rw [cuts.stack]
    rcases List.mem_cons.mp member with rfl | member
    · exact List.mem_append_right _ List.mem_cons_self
    · simp [member]
  rw [List.forall_mem_cons] at isOpen
  rcases exists_detached (assembled.known block isOpen.1) assembled.nested with
    ⟨detached, taken, detachedNested, leftNested, detachedFits⟩
  have start : ChainSound kept builder block label
      ⟨{ builder with trees := detached.left }, detached.tree, [], none, 0⟩ :=
    ⟨rfl, assembled.withTrees leftNested, detachedNested, detachedFits, List.forall_mem_nil _⟩
  rcases start.foldl_step isOpen.2 with ⟨next, chained⟩
  rw [Builder.cut, taken]
  generalize between.foldl Chain.step
    ⟨{ builder with trees := detached.left }, detached.tree, [], none, 0⟩ = chain at chained ⊢
  rcases exists_insertAt (chained.suits cuts sound.spine) chained.nested chained.assembled.nested
    with ⟨trees, placed, treesNested⟩
  rw [placed]
  have goesOn := extends_label next chain.builder.nextNumber old.name
  have known := known_fresh next old.name old.attributes chain.builder
  have assembled := chained.assembled.extend goesOn
  have shown : (region? builder.stack).any (Element.isAnyOf contentRegions) = true := by
    rw [sound.region]
    exact shows
  rcases cuts.isSpine sound.spine shown chain.copies.reverse
      (chain.builder.fresh .html old.name old.attributes)
      (List.forall_mem_cons.mpr ⟨rfl, fun copy member =>
        (chained.copies copy (List.mem_reverse.mp member)).1⟩)
      (List.forall_mem_cons.mpr ⟨formats, fun copy member =>
        (chained.copies copy (List.mem_reverse.mp member)).2.2⟩) with ⟨spine, region⟩
  -- The copies and the half of the element are new, and of the rest only the places change.
  refine {
    mode := ?mode
    fosters := ?fosters
    noTemplate := ?noTemplate
    stretches := ?stretches
    region := region.trans sound.region
    assembled := ⟨Function.update next chain.builder.nextNumber old.name, {
      nested := ?nested
      spine := spine
      known := ?known
      entries := ?entries
      head := ?head
      form := ?form
      keeps := assembled.keeps }⟩ }
  case mode =>
    rw [chained.same]
    exact sound.mode
  case fosters =>
    rw [chained.same]
    exact sound.fosters
  case noTemplate =>
    rw [chained.same]
    exact sound.noTemplate
  case stretches =>
    rw [chained.same]
    exact sound.stretches
  case nested =>
    exact Tree.allNested_wrapChildren known (fits_formatting formats) (formatting_fits formats)
      (treesNested.extend goesOn)
  case known =>
    intro element member
    simp only [List.mem_append, List.mem_cons, List.mem_reverse] at member
    rcases member with member | rfl | rfl | member | member
    · exact assembled.known element (by rw [cuts.stack]; simp [member])
    · exact known
    · exact assembled.known element isOpen.1
    · exact (chained.copies element member).2.1.extend goesOn
    · exact assembled.known element (by rw [cuts.stack]; simp [member])
  case entries =>
    intro element member
    rcases mem_enterHalf member with rfl | member
    · exact ⟨known, formats⟩
    · exact assembled.entries element member
  case head =>
    rw [chained.same]
    exact assembled.head
  case form =>
    rw [chained.same]
    exact assembled.form

/-! ## The end tag of a formatting element -/

theorem splitAtLast?_eq_none {test : Element → Bool} {stack : List Element}
    (none : splitAtLast? test stack = none) : ∀ element ∈ stack, test element = false := by
  induction stack with
  | nil => exact List.forall_mem_nil _
  | cons element rest induction =>
      rw [splitAtLast?] at none
      split at none
      · cases none
      · rename_i restNone
        split at none
        · cases none
        · rename_i passes
          exact List.forall_mem_cons.mpr ⟨Bool.eq_false_iff.mpr passes, induction restNone⟩

theorem splitAtLast?_eq_some {test : Element → Bool} {stack before after : List Element}
    {found : Element} (splits : splitAtLast? test stack = some (before, found, after)) :
    stack = before ++ found :: after ∧ ∀ element ∈ after, test element = false := by
  induction stack generalizing before with
  | nil => cases splits
  | cons element rest induction =>
      rw [splitAtLast?] at splits
      split at splits
      · rename_i later
        cases splits
        rcases induction later with ⟨whole, apart⟩
        exact ⟨by rw [whole]; rfl, apart⟩
      · rename_i restNone
        split at splits
        · cases splits
          exact ⟨rfl, splitAtLast?_eq_none restNone⟩
        · cases splits

def Round.All (property : Builder → Prop) : Round → Prop
  | .finished builder => property builder
  | .next builder => property builder

theorem SoundIn.isRegion (sound : SoundIn kept mode fostering region builder) :
    region.isRegion = true :=
  List.find?_some sound.region

/-- A formatting element that a tag may close was not opened outside of a region. -/
theorem SoundIn.entry_noRegion (sound : SoundIn kept mode fostering region builder) {entry : Element}
    (entered : .element entry ∈ builder.formatting) :
    ∀ element ∈ builder.stack, element.isRegion = true →
      (element.number == entry.number) = false := by
  intro element isOpen isRegion
  rcases sound.assembled with ⟨label, assembled⟩
  refine Bool.eq_false_iff.mpr fun same => ?_
  have formats := formats_of_number_eq assembled isOpen entered (beq_iff_eq.mp same)
  have all : ∀ name ∈ formattingTags, name ∉ regionNames := by decide
  exact all _ formats (Element.name_mem_of_isAnyOf isRegion)

/-- The block at which a formatting element is cut is no region, and between them is nothing that
the block could not stand in. -/
theorem SoundIn.cuts (sound : SoundIn kept mode fostering region builder) {entry : Element}
    (entered : .element entry ∈ builder.formatting)
    (reached : builder.inScope Element.bounds (·.number == entry.number) = true)
    (splits : splitAtLast? (Element.isAnyOf special)
      (builder.stack.takeWhile fun element => !(element.number == entry.number)) =
        some (later, block, between)) :
    ∃ found, Cut block found later between
      (outside (·.number == entry.number) builder.stack) builder.stack := by
  rcases exists_of_reaches (fun _ => id) (sound.entry_noRegion entered) sound.spine reached with
    ⟨inner, found, outer, stack, passes, apart⟩
  have taken : (builder.stack.takeWhile fun element => !(element.number == entry.number)) =
      inner := by
    rw [stack, List.takeWhile_append_of_pos, List.takeWhile_cons, passes]
    · exact List.append_nil inner
    · intro element member
      rw [(apart element member).1]
      rfl
  have left : outside (·.number == entry.number) builder.stack = outer := by
    rw [stack]
    exact outside_split (fun element member => (apart element member).1) passes
  rw [taken] at splits
  rcases splitAtLast?_eq_some splits with ⟨rfl, plain⟩
  have isOpen : ∀ element ∈ between ++ [found], element ∈ builder.stack := by
    intro element member
    rw [stack]
    rw [List.mem_append, List.mem_singleton] at member
    rcases member with member | rfl <;> simp [*]
  rw [left]
  refine ⟨found, by rw [stack]; simp, ?_, ?_⟩
  · intro element member
    apply fun among => (apart element among).2.2
    rw [List.mem_append, List.mem_singleton] at member
    rcases member with member | rfl <;> simp [*]
  · intro element member
    rcases List.mem_append.mp member with among | last
    · have common := plain element among
      rw [Element.isAnyOf_eq (sound.spine.isHtml (isOpen element member))] at common
      exact List.contains_iff_mem.not.mp (Bool.eq_false_iff.mp common)
    · cases List.mem_singleton.mp last
      rcases sound.assembled with ⟨label, assembled⟩
      exact notMem_special
        (formats_of_number_eq assembled (isOpen found member) entered (beq_iff_eq.mp passes))

theorem SoundIn.closeFormattingRound (sound : SoundIn kept mode fostering region builder)
    (shows : region.isAnyOf contentRegions = true) {name : String}
    (formats : name ∈ formattingTags) :
    (builder.closeFormattingRound name).All (SoundIn kept mode fostering region) := by
  rw [Builder.closeFormattingRound]
  split
  · have all : ∀ name ∈ formattingTags, name ∉ regionNames := by decide
    exact sound.closeOther (isRegion_of_isNamed (all name formats) sound.isRegion)
  · rename_i entry found
    have entered := mem_of_mem_sinceMarker (List.mem_of_find?_eq_some found)
    dsimp only
    split
    · exact sound.forget _
    split
    · exact sound
    · rename_i reached
      rw [Bool.not_eq_true, Bool.not_eq_false'] at reached
      have noRegion := sound.entry_noRegion entered
      split
      · exact (sound.shed (sheds_outside (fun _ => id) noRegion sound.spine reached)).forget _
      · rename_i later block between splits
        rcases sound.cuts entered reached splits with ⟨old, cuts⟩
        exact sound.cut shows cuts (sound.entry entered)

theorem SoundIn.closeFormattingRounds (shows : region.isAnyOf contentRegions = true)
    {name : String} (formats : name ∈ formattingTags) (rounds : Nat)
    (sound : SoundIn kept mode fostering region builder) :
    SoundIn kept mode fostering region (builder.closeFormattingRounds name rounds) := by
  induction rounds generalizing builder with
  | zero => exact sound
  | succ rounds induction =>
      have round := sound.closeFormattingRound shows formats
      rw [Builder.closeFormattingRounds]
      split
      · rename_i finished
        rw [finished] at round
        exact round
      · rename_i next
        rw [next] at round
        exact induction round

theorem SoundIn.closeFormatting (sound : SoundIn kept mode fostering region builder)
    (shows : region.isAnyOf contentRegions = true) {name : String}
    (formats : name ∈ formattingTags) :
    SoundIn kept mode fostering region (builder.closeFormatting name) := by
  have all : ∀ name ∈ formattingTags, name ∉ regionNames := by decide
  rw [Builder.closeFormatting]
  split
  · rename_i current
    apply sound.pop (Bool.and_eq_true_iff.mp current).1
    intro element named
    refine Bool.eq_false_iff.mpr fun isRegion => ?_
    rw [isRegion_of_isNamed (all name formats) isRegion] at named
    cases named
  · exact sound.closeFormattingRounds shows formats maxRounds

/-- A link that is taken out from among the open elements leaves the others where they stand. -/
theorem isSpine_eraseP {test : Element → Bool} {stack : List Element} (spine : IsSpine stack)
    (plain : ∀ element ∈ stack, test element = true → element.name ∉ special) :
    IsSpine (stack.eraseP test) ∧ SameOutlook (stack.eraseP test) stack := by
  induction stack with
  | nil => exact ⟨trivial, .refl []⟩
  | cons element outer induction =>
      rw [List.forall_mem_cons] at plain
      rw [List.eraseP_cons]
      cases passes : test element with
      | true => exact ⟨spine.2.2, (sameOutlook_cons spine.1 (plain.1 passes) outer).symm⟩
      | false =>
          rcases induction spine.2.2 plain.2 with ⟨restSpine, same⟩
          refine ⟨⟨spine.1, ?_, restSpine⟩, same.cons element⟩
          cases spine.2.1 with
          | root named outermost =>
              subst outermost
              exact .root named rfl
          | ordinary ordinary => exact .ordinary (ordinary.congr same.symm)
          | part held =>
              rcases isRegion_of_held held with ⟨holder, rest, rfl, isRegion, -⟩
              have kept : test holder = false := by
                refine Bool.eq_false_iff.mpr fun erased => ?_
                exact plain.2 holder List.mem_cons_self erased
                  ((by decide : regionNames ⊆ special) (Element.name_mem_of_isAnyOf isRegion))
              rw [List.eraseP_cons, kept]
              exact .part held

theorem SoundIn.closeEarlierLink (sound : SoundIn kept mode fostering region builder)
    (shows : region.isAnyOf contentRegions = true) :
    SoundIn kept mode fostering region builder.closeEarlierLink := by
  rw [Builder.closeEarlierLink]
  split
  · exact sound
  · rename_i link found
    rcases sound.assembled with ⟨label, assembled⟩
    have entered := mem_of_mem_sinceMarker (List.mem_of_find?_eq_some found)
    have known := (assembled.entries link entered).1
    have remembering : SoundIn (link :: kept) mode fostering region builder :=
      { sound with assembled := ⟨label, assembled.keep known⟩ }
    have formats : "a" ∈ formattingTags := by decide
    have closed := (remembering.closeFormatting shows formats).forget link.number
    rcases closed.assembled with ⟨next, more⟩
    have named := List.find?_some found
    have linkNamed : link.name = "a" := beq_iff_eq.mp named
    have plain : ∀ element ∈ ((builder.closeFormatting "a").forget link.number).stack,
        (element.number == link.number) = true → element.name ∉ special := by
      intro element isOpen same
      rw [(more.known element isOpen).name_eq (more.keeps link List.mem_cons_self)
        (beq_iff_eq.mp same), linkNamed]
      decide
    rcases isSpine_eraseP more.spine plain with ⟨spine, same⟩
    refine { closed with region := same.region.trans closed.region, assembled := ⟨next, ?_⟩ }
    exact { more with
      spine
      known := fun element member => more.known element (List.mem_of_mem_eraseP member)
      keeps := (List.forall_mem_cons.mp more.keeps).2 }

end ChatMarkup.Document.Builder
