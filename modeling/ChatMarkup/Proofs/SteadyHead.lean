import ChatMarkup.Proofs.SteadyParts

/-!
The rules of the beginning of a page keep a builder steady. They open the parts that every page has,
each right inside of the one that holds it.
-/

namespace ChatMarkup.Document

namespace Builder

variable {kept : List Element} {mode : Mode} {fostering : Bool} {region : Element}
  {builder : Builder}

/-! ## Before the root -/

theorem Starting.insertOuterComment (starting : Starting fostering builder) (content : List Char) :
    Starting fostering (builder.insertOuterComment content) := by
  rcases starting.assembled with ⟨label, assembled⟩
  exact { starting with assembled := ⟨label, assembled.withTrees ⟨trivial, assembled.nested⟩⟩ }

theorem Starting.insertRoot (starting : Starting fostering builder) (attributes : List Attribute) :
    Settled fostering .beforeHead ((builder.insertRoot attributes).goTo .beforeHead) := by
  rcases starting.assembled with ⟨label, assembled⟩
  have more := assembled.extend (extends_label label builder.nextNumber "html")
  have known := known_fresh label "html" attributes builder
  have nested : Tree.AllNested (Function.update label builder.nextNumber "html")
      (builder.nextNumber + 1)
      (.element (builder.fresh .html "html" attributes) [] :: builder.trees) :=
    ⟨Tree.nested_leaf known, more.nested⟩
  have rooted := more.withTrees nested
  rw [starting.empty] at rooted
  have standing := rooted.push rfl known (.root rfl rfl)
  refine ⟨builder.fresh .html "html" attributes, ?_, rfl⟩
  exact {
    mode := rfl
    fosters := starting.fosters
    noTemplate := starting.noTemplate
    stretches := starting.stretches
    region := rfl
    assembled := ⟨_, standing⟩ }

theorem Starting.initial (starting : Starting false builder) (token : Token) :
    (Head.initial token builder).All (Steady false) := by
  unfold Head.initial
  split
  · exact .starting starting
  · exact .starting (starting.insertOuterComment _)
  · exact .starting { starting with mode := .inr rfl }

theorem Starting.beforeHtml (starting : Starting false builder) (token : Token) :
    (Head.beforeHtml token builder).All (Steady false) := by
  have rooted : ∀ attributes,
      Steady false ((builder.insertRoot attributes).goTo .beforeHead) :=
    fun attributes => .settled _ (starting.insertRoot attributes)
  unfold Head.beforeHtml
  split
  · exact .starting starting
  · exact .starting (starting.insertOuterComment _)
  · split <;> exact rooted _
  · split
    · exact rooted []
    · exact .starting starting
  · exact rooted []

/-! ## The head -/

theorem isAnyOf_contentRegions_eq_false {names : List String}
    (apart : ∀ name ∈ names, name ∉ contentRegions) (here : region.isAnyOf names = true) :
    region.isAnyOf contentRegions = false := by
  rw [Element.isAnyOf_eq (Element.isHtml_of_isAnyOf here)]
  exact Bool.eq_false_iff.mpr
    (List.contains_iff_mem.not.mpr (apart _ (Element.name_mem_of_isAnyOf here)))

/-- Nothing but parts of the page stands right inside of the root and of the head: metadata are
closed at once. -/
theorem SoundIn.bare (sound : SoundIn kept mode fostering region builder)
    (noContent : region.isAnyOf contentRegions = false) :
    ∃ outer, builder.stack = region :: outer := by
  rcases sound.mem_region with ⟨inner, outer, stack, apart⟩
  rcases List.eq_nil_or_concat inner with rfl | ⟨front, last, rfl⟩
  · exact ⟨outer, stack⟩
  · have spine := sound.spine
    rw [stack, List.concat_eq_append, List.append_assoc] at spine
    have lastSpine : IsSpine (last :: region :: outer) :=
      spine.of_suffix (List.suffix_append front _)
    have noRegion := apart last (by simp)
    have ordinary := lastSpine.2.1.ordinary_of_not_region
      (notMem_regionNames lastSpine.1 noRegion)
    have shown := ordinary.region
    rw [region?_cons sound.isRegion, Option.any_some, noContent] at shown
    cases shown

theorem SoundIn.insertHead (sound : SoundIn [] mode false region builder)
    (here : region.isAnyOf ["html"] = true) {name : String} (named : name = "head")
    (attributes : List Attribute) :
    Steady false (Head.insertHead name attributes builder) := by
  subst named
  rcases sound.bare (isAnyOf_contentRegions_eq_false (by decide) here) with ⟨outer, stack⟩
  have held : region.isAnyOf (holders "head") = true := here
  have opened := sound.openPart stack held (by decide) attributes
  rcases opened.assembled with ⟨label, assembled⟩
  have known := assembled.known (builder.fresh .html "head" attributes) List.mem_cons_self
  refine .settled .inHead ⟨builder.fresh .html "head" attributes, ?_, rfl⟩
  refine { opened with mode := rfl, assembled := ⟨label, { assembled with head := ?_ }⟩ }
  rintro _ ⟨⟩
  exact ⟨rfl, known, rfl⟩

theorem SoundIn.beforeHead (sound : SoundIn [] .beforeHead false region builder)
    (here : region.isAnyOf ["html"] = true) (token : Token) :
    (Head.beforeHead token builder).All (Steady false) := by
  have settle : ∀ {next : Builder}, SoundIn [] .beforeHead false region next → Steady false next :=
    fun sound => .settled _ ⟨region, sound, here⟩
  have supplied := sound.insertHead here rfl []
  unfold Head.beforeHead
  split
  · exact settle sound
  · exact settle (sound.insertComment _)
  · rename_i tag
    split
    · exact settle (sound.mergeRoot tag)
    · split
      · rename_i named
        exact sound.insertHead here named tag.attributes
      · exact supplied
  · split
    · exact supplied
    · exact settle sound
  · exact supplied

theorem SoundIn.leaveHead (sound : SoundIn [] .inHead false region builder)
    (here : region.isAnyOf ["head"] = true) :
    Settled false .afterHead (builder.pop.goTo .afterHead) := by
  have named := List.mem_singleton.mp (Element.name_mem_of_isAnyOf here)
  rcases sound.bare (isAnyOf_contentRegions_eq_false (by decide) here) with ⟨outer, stack⟩
  rcases sound.popPart stack (by rw [named]; decide) with ⟨holder, holds, popped, -⟩
  rw [named] at holds
  exact ⟨holder, popped.goTo .afterHead, holds⟩

theorem SoundIn.inHead (sound : SoundIn [] .inHead false region builder)
    (here : region.isAnyOf ["head"] = true) {token : Token}
    (stays : builder.strays token = false) :
    (Head.inHead token builder).All (Steady false) := by
  have settle : ∀ {next : Builder}, SoundIn [] .inHead false region next → Steady false next :=
    fun sound => .settled _ ⟨region, sound, here⟩
  have left : Steady false (builder.pop.goTo .afterHead) := .settled _ (sound.leaveHead here)
  unfold Head.inHead
  split
  · exact settle (sound.insertText _)
  · exact settle (sound.insertComment _)
  · rename_i tag
    split
    · exact settle (sound.mergeRoot tag)
    · split
      · rename_i isMetadata
        have member : tag.name ∈ "noscript" :: Head.metadata := by
          simpa [or_comm] using isMetadata
        exact sound.insertMetadata here member (staysAtStart stays).common
      · split
        · exact settle sound
        · exact left
  · split
    · exact left
    · split
      · rw [Head.endTemplate, sound.hasNoTemplate]
        exact settle sound
      · split
        · exact left
        · exact settle sound
  · exact left

/-! ## After the head -/

theorem stack_insertAt (place : Option Place) (tree : Tree) (builder : Builder) :
    (builder.insertAt place tree).stack = builder.stack := by
  unfold insertAt
  split
  · rfl
  · rfl
  · split <;> rfl

theorem stack_insert (tag : Tag) (builder : Builder) : (builder.insert tag).stack =
    builder.fresh .html tag.name tag.attributes :: builder.stack :=
  congrArg (List.cons _) (stack_insertAt _ _ builder)

theorem stack_insertVoid (tag : Tag) (builder : Builder) :
    (builder.insertVoid tag).stack = builder.stack :=
  congrArg List.tail (stack_insert tag builder)

/-- The head may be opened again for what belongs into it. -/
theorem SoundIn.underHead (sound : SoundIn [] .afterHead false region builder)
    (here : region.isAnyOf ["html"] = true) {head : Element}
    (found : builder.headElement = some head) :
    head.number < builder.nextNumber ∧
      SoundIn [] .afterHead false head { builder with stack := head :: builder.stack } := by
  rcases sound.assembled with ⟨label, assembled⟩
  rcases assembled.head head found with ⟨html, known, named⟩
  rcases sound.bare (isAnyOf_contentRegions_eq_false (by decide) here) with ⟨outer, stack⟩
  have stands : StandsIn head.name builder.stack := by
    rw [named, stack]
    exact .part here
  have isRegion : head.isRegion = true := by
    rw [Element.isRegion, Element.isAnyOf_eq html, named]
    rfl
  exact ⟨known.below, { sound with
    region := region?_cons isRegion builder.stack
    assembled := ⟨label, assembled.push html known stands⟩ }⟩

/-- The head is closed again after an element without content. -/
theorem SoundIn.insertLateVoid {head : Element} {outer : List Element}
    (late : SoundIn [] .afterHead false head builder) (stack : builder.stack = head :: outer)
    (latest : region? outer = some region) (here : region.isAnyOf ["html"] = true) {tag : Tag}
    (welcomes : Welcomes tag.name builder) :
    Steady false ((builder.insertVoid tag).removeFromStack head.number) := by
  have inserted := late.insertVoid welcomes
  have suffix : outer <:+ (builder.insertVoid tag).stack := by
    rw [stack_insertVoid, stack]
    exact List.suffix_cons head outer
  have left : (builder.insertVoid tag).stack.eraseP (·.number == head.number) = outer := by
    rw [stack_insertVoid, stack]
    exact List.eraseP_cons_of_pos (beq_self_eq_true head.number)
  rw [removeFromStack, left]
  exact .settled .afterHead ⟨region, inserted.closeTo suffix latest, here⟩

/-- The head is closed around an element with raw text, which stays open for its text. -/
theorem SoundIn.insertLateRaw {head : Element} {outer : List Element}
    (late : SoundIn [] .afterHead false head builder) (stack : builder.stack = head :: outer)
    (latest : region? outer = some region) (here : region.isAnyOf ["html"] = true)
    (below : head.number < builder.nextNumber) {tag : Tag}
    (welcomes : Welcomes tag.name builder) (content : Content) :
    Steady false ((builder.insertRaw content tag).removeFromStack head.number) := by
  have inserted := late.insertVoid welcomes
  have suffix : outer <:+ (builder.insertVoid tag).stack := by
    rw [stack_insertVoid, stack]
    exact List.suffix_cons head outer
  have apart : ((builder.fresh .html tag.name tag.attributes).number == head.number) = false :=
    beq_eq_false_iff_ne.mpr (Nat.ne_of_gt below)
  have left : (builder.insertRaw content tag).stack.eraseP (·.number == head.number) =
      builder.fresh .html tag.name tag.attributes :: outer := by
    have opened : (builder.insertRaw content tag).stack = _ := stack_insert tag builder
    rw [opened, stack, List.eraseP_cons, apart, cond_false, List.eraseP_cons,
      beq_self_eq_true head.number, cond_true]
  have there : region.isAnyOf (regionsOf builder.mode) = true := by
    rw [late.mode]
    exact here
  rw [removeFromStack, left]
  exact .inText rfl rfl (.inl ⟨region, { inserted.closeTo suffix latest with mode := rfl }, there⟩)

theorem SoundIn.insertLateMetadata (sound : SoundIn [] .afterHead false region builder)
    (here : region.isAnyOf ["html"] = true) {tag : Tag} (member : tag.name ∈ Head.metadata)
    (common : tag.name ∉ strayNames) :
    Steady false (Head.insertLateMetadata tag builder) := by
  have isMetadata := List.mem_cons_of_mem "noscript" member
  unfold Head.insertLateMetadata
  split
  · exact sound.insertMetadata here isMetadata common
  · rename_i head found
    rcases sound.underHead here found with ⟨below, late⟩
    have welcomes := welcomes_metadata isMetadata { builder with stack := head :: builder.stack }
    rcases insertMetadata_cases isMetadata common { builder with stack := head :: builder.stack }
      with isVoid | ⟨content, isRaw⟩
    · rw [isVoid]
      exact late.insertLateVoid rfl sound.region here welcomes
    · rw [isRaw]
      exact late.insertLateRaw rfl sound.region here below welcomes content

theorem SoundIn.openBody (sound : SoundIn [] mode false region builder)
    (here : region.isAnyOf ["html"] = true) {name : String} (named : name = "body")
    (attributes : List Attribute) :
    Steady false ((builder.openIn .html name attributes).goTo .inBody) := by
  subst named
  rcases sound.bare (isAnyOf_contentRegions_eq_false (by decide) here) with ⟨outer, stack⟩
  have held : region.isAnyOf (holders "body") = true := here
  exact .settled _ (sound.enterPart stack held (by decide) attributes .inBody (by decide))

theorem SoundIn.afterHead (sound : SoundIn [] .afterHead false region builder)
    (here : region.isAnyOf ["html"] = true) {token : Token}
    (stays : builder.strays token = false) :
    (Head.afterHead token builder).All (Steady false) := by
  have settle : ∀ {next : Builder}, SoundIn [] .afterHead false region next → Steady false next :=
    fun sound => .settled _ ⟨region, sound, here⟩
  have supplied : Steady false ((builder.insertImplied "body").goTo .inBody) :=
    sound.openBody here rfl []
  unfold Head.afterHead
  split
  · exact settle (sound.insertText _)
  · exact settle (sound.insertComment _)
  · rename_i tag
    have common := (staysAtStart stays).common
    split
    · exact settle (sound.mergeRoot tag)
    · split
      · rename_i named
        have forbidden : SoundIn [] .afterHead false region builder.forbidFrameset := sound
        exact forbidden.openBody here named tag.attributes
      · split
        · rename_i named
          exact absurd sound.mode ((staysAtStart stays).frames named).2
        · split
          · rename_i isMetadata
            exact sound.insertLateMetadata here (List.contains_iff_mem.mp isMetadata) common
          · split
            · exact settle sound
            · exact supplied
  · split
    · rw [Head.endTemplate, sound.hasNoTemplate]
      exact settle sound
    · split
      · exact settle sound
      · split
        · exact supplied
        · exact settle sound
  · exact supplied

end Builder

end ChatMarkup.Document
