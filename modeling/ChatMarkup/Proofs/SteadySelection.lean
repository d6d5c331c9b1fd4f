import ChatMarkup.Document.Mode.Select
import ChatMarkup.Proofs.SteadyParts

/-!
The rules of a list of choices keep a builder steady. What is put into the list fits into each of its
elements, and a tag that ends the list leads back to the region around it.
-/

namespace ChatMarkup.Document

namespace Builder

variable {kept choices outer : List Element} {mode : Mode} {fostering : Bool}
  {region select : Element} {builder : Builder}

/-! ## What is open -/

def selectionNames : List String := "select" :: choiceNames

theorem SelectingIn.isAnyOf_current
    (selecting : SelectingIn fostering mode region select choices outer builder) :
    ∃ current rest, builder.stack = current :: rest ∧ current ∈ choices ++ [select] ∧
      current.isAnyOf selectionNames = true := by
  rw [selecting.stack]
  cases choices with
  | nil =>
      exact ⟨select, outer, rfl, List.mem_singleton_self select,
        Element.isAnyOf_of_subset (by decide) selecting.isSelect⟩
  | cons choice rest =>
      exact ⟨choice, rest ++ select :: outer, rfl, List.mem_cons_self,
        Element.isAnyOf_of_subset (by decide) (selecting.areChoices choice List.mem_cons_self)⟩

theorem SelectingIn.hasNoTemplate
    (selecting : SelectingIn fostering mode region select choices outer builder) :
    builder.hasOpen "template" = false := by
  have around := selecting.sound.hasNoTemplate
  rw [hasOpen] at around
  have apart : ∀ choice ∈ choices, ¬choice.isNamed "template" = true := fun choice member =>
    Bool.eq_false_iff.mp (isNamed_of_notMem (selecting.areChoices choice member) (by decide))
  have notSelect : select.isNamed "template" = false :=
    isNamed_of_notMem selecting.isSelect (by decide)
  rw [hasOpen, selecting.stack, List.any_append, List.any_cons, notSelect, around,
    List.any_eq_false.mpr apart]
  rfl

/-! ## Nodes in a list of choices -/

/-- What fits into a list of choices and its groups and options is put into the latest of them. -/
theorem SelectingIn.exists_insertTree
    (selecting : SelectingIn fostering mode region select choices outer builder)
    {label : Nat → String} {bound : Nat} {tree : Tree}
    (keeps : ∀ element ∈ choices ++ [select], element.Known label bound)
    (fits : ∀ parent ∈ selectionNames, tree.FitsIn parent) (treeNested : tree.Nested label bound)
    (nested : Tree.AllNested label bound builder.trees) :
    ∃ trees, builder.insertTree tree = { builder with trees } ∧
      Tree.AllNested label bound trees := by
  rcases selecting.isAnyOf_current with ⟨current, rest, stack, member, latest⟩
  have known := keeps current member
  have noPart : current.isAnyOf tableParts = false := by
    have apart : ∀ name ∈ selectionNames, name ∉ tableParts := by decide
    rw [Element.isAnyOf_eq (Element.isHtml_of_isAnyOf latest)]
    exact Bool.eq_false_iff.mpr (List.contains_iff_mem.not.mpr
      (apart _ (Element.name_mem_of_isAnyOf latest)))
  have inside : builder.place = some (.inside current.number) := by
    rw [place, stack, List.head?_cons, Option.bind_some, placeIn, noPart, Bool.and_false]
    rfl
  rw [insertTree, inside]
  refine exists_insertAt ?_ treeNested nested
  rw [Suits, known.named]
  exact fits _ (Element.name_mem_of_isAnyOf latest)

theorem Selecting.insertLeaf (selecting : Selecting fostering mode builder) {tree : Tree}
    (nested : ∀ label bound, tree.Nested label bound) (fits : ∀ parent, tree.FitsIn parent) :
    Selecting fostering mode (builder.insertTree tree) := by
  rcases selecting with ⟨region, select, choices, outer, selecting⟩
  rcases selecting.sound.assembled with ⟨label, assembled⟩
  rcases selecting.exists_insertTree assembled.keeps (fun parent _ => fits parent)
    (nested label _) assembled.nested with ⟨trees, inserted, treesNested⟩
  rw [inserted]
  exact ⟨region, select, choices, outer, { selecting with
    sound := { selecting.sound with assembled := ⟨label, assembled.withTrees treesNested⟩ } }⟩

theorem Selecting.mergeRoot (selecting : Selecting fostering mode builder) (tag : Tag) :
    Selecting fostering mode (builder.mergeRoot tag) := by
  rw [Builder.mergeRoot]
  split
  · split
    · exact selecting
    · rcases selecting with ⟨region, select, choices, outer, selecting⟩
      exact ⟨region, select, choices, outer, { selecting with
        sound := selecting.sound.withTrees fun _ => Tree.allNested_addAttributes tag.attributes }⟩
  · exact selecting

/-! ## Elements in a list of choices -/

/-- An element is put into the list, and remembered. -/
theorem SelectingIn.exists_insertElement
    (selecting : SelectingIn fostering mode region select choices outer builder) {name : String}
    (noItem : name ∉ itemNames) (attributes : List Attribute) :
    ∃ trees,
      builder.insertTree (.element (builder.fresh .html name attributes) []) =
        { builder with trees } ∧
      SoundIn (builder.fresh .html name attributes :: (choices ++ [select])) mode fostering region
        { builder with trees, stack := outer, nextNumber := builder.nextNumber + 1 } := by
  rcases selecting.sound.assembled with ⟨label, assembled⟩
  have more := assembled.extend (extends_label label builder.nextNumber name)
  have known := known_fresh label name attributes builder
  have fits : ∀ parent ∈ selectionNames,
      (Tree.element (builder.fresh .html name attributes) []).FitsIn parent := by
    have noParagraph : ∀ parent ∈ selectionNames, parent ≠ "p" := by decide
    exact fun parent member => fits_of_ne (noParagraph parent member) noItem
  rcases selecting.exists_insertTree more.keeps fits (Tree.nested_leaf known) more.nested with
    ⟨trees, inserted, nested⟩
  exact ⟨trees, inserted, { selecting.sound with
    assembled := ⟨_, (more.withTrees nested).keep known⟩ }⟩

theorem Selecting.insertChoice (selecting : Selecting fostering mode builder) {tag : Tag}
    (choice : tag.name ∈ choiceNames) : Selecting fostering mode (builder.insert tag) := by
  have apart : ∀ name ∈ choiceNames, name ∉ itemNames := by decide
  rcases selecting with ⟨region, select, choices, outer, selecting⟩
  rcases selecting.exists_insertElement (apart _ choice) tag.attributes with
    ⟨trees, inserted, sound⟩
  rw [Builder.insert, Builder.openIn, inserted]
  have isChoice : (builder.fresh .html tag.name tag.attributes).isAnyOf choiceNames = true := by
    rw [Element.isAnyOf_eq rfl]
    exact List.contains_iff_mem.mpr choice
  exact ⟨region, select, builder.fresh .html tag.name tag.attributes :: choices, outer, {
    stack := congrArg (List.cons _) selecting.stack
    areChoices := List.forall_mem_cons.mpr ⟨isChoice, selecting.areChoices⟩
    isSelect := selecting.isSelect
    sound
    shows := selecting.shows
    selects := selecting.selects }⟩

theorem Selecting.insertVoid (selecting : Selecting fostering mode builder) {tag : Tag}
    (noItem : tag.name ∉ itemNames) : Selecting fostering mode (builder.insertVoid tag) := by
  rcases selecting with ⟨region, select, choices, outer, selecting⟩
  rcases selecting.exists_insertElement noItem tag.attributes with ⟨trees, inserted, sound⟩
  rw [Builder.insertVoid, Builder.insert, Builder.openIn, inserted]
  exact ⟨region, select, choices, outer, { selecting with sound := sound.drop }⟩

theorem Selecting.insertRaw (selecting : Selecting fostering mode builder) {tag : Tag}
    (noItem : tag.name ∉ itemNames) (content : Content) :
    Steady fostering (builder.insertRaw content tag) := by
  have inMode : builder.mode = mode := by
    rcases selecting with ⟨_, _, _, _, selecting⟩
    exact selecting.sound.mode
  rcases selecting.insertVoid noItem with ⟨region, select, choices, outer, inserted⟩
  refine .inText rfl rfl (.inr ?_)
  rw [show (builder.insertRaw content tag).returnMode = mode from inMode]
  exact ⟨region, select, choices, outer, { inserted with
    sound := { inserted.sound with mode := rfl } }⟩

theorem Selecting.insertMetadata (selecting : Selecting fostering mode builder) {tag : Tag}
    (member : tag.name ∈ ["script", "template"]) (common : tag.name ∉ strayNames) :
    Steady fostering (Head.insertMetadata tag builder) := by
  have apart : ∀ name ∈ ["script", "template"],
      name ∈ "noscript" :: Head.metadata ∧ name ∉ itemNames := by decide
  rcases apart _ member with ⟨isMetadata, noItem⟩
  rcases insertMetadata_cases isMetadata common builder with isVoid | ⟨content, isRaw⟩
  · rw [isVoid]
    exact .selecting mode (selecting.insertVoid noItem)
  · rw [isRaw]
    exact selecting.insertRaw noItem content

/-! ## Closing choices -/

theorem Selecting.pop (selecting : Selecting fostering mode builder) {name : String}
    (choice : name ∈ choiceNames) (current : builder.currentIs (Element.isNamed name) = true) :
    Selecting fostering mode builder.pop := by
  rcases selecting with ⟨region, select, choices, outer, selecting⟩
  have stack := selecting.stack
  rw [currentIs, stack] at current
  cases choices with
  | nil =>
      have apart : ∀ name ∈ choiceNames, name ∉ ["select"] := by decide
      have named : select.isNamed name = true := current
      rw [isNamed_of_notMem selecting.isSelect (apart name choice)] at named
      cases named
  | cons closed choices =>
      exact ⟨region, select, choices, outer, {
        stack := congrArg List.tail stack
        areChoices := (List.forall_mem_cons.mp selecting.areChoices).2
        isSelect := selecting.isSelect
        sound := selecting.sound.drop
        shows := selecting.shows
        selects := selecting.selects }⟩

theorem Selecting.closeCurrent (selecting : Selecting fostering mode builder) {name : String}
    (choice : name ∈ choiceNames) :
    Selecting fostering mode (Select.closeCurrent name builder) := by
  rw [Select.closeCurrent]
  split
  · rename_i current
    exact selecting.pop choice current
  · exact selecting

theorem Selecting.endGroup (selecting : Selecting fostering mode builder) :
    Selecting fostering mode (Select.endGroup builder) := by
  rw [Select.endGroup]
  split
  · rename_i option group outer stack
    split
    · rename_i both
      rw [Bool.and_eq_true] at both
      have isOption : builder.currentIs (Element.isNamed "option") = true := by
        rw [currentIs, stack]
        exact both.1
      have isGroup : builder.pop.currentIs (Element.isNamed "optgroup") = true := by
        rw [currentIs, Builder.pop, stack]
        exact both.2
      exact (selecting.pop (by decide) isOption).pop (by decide) isGroup
    · exact selecting.closeCurrent (by decide)
  · exact selecting.closeCurrent (by decide)

/-! ## Closing the list -/

/-- After the list its place is in the region around it. -/
theorem Selecting.closeSelection (selecting : Selecting fostering mode builder) :
    ∃ mode, Settled fostering mode (Select.closeSelection builder) := by
  rcases selecting with ⟨region, select, choices, outer, selecting⟩
  have unnamed : ∀ choice ∈ choices, choice.isNamed "select" = false := fun choice member =>
    isNamed_of_notMem (selecting.areChoices choice member) (by decide)
  have left : outside (Element.isNamed "select") builder.stack = outer := by
    rw [selecting.stack]
    exact outside_split unnamed (isNamed_of_isAnyOf_singleton selecting.isSelect)
  have around := selecting.sound
  rcases around.assembled with ⟨label, assembled⟩
  have there := modeFor_region { builder with stack := outer } around.spine around.region
    selecting.shows
  rw [Select.closeSelection, Builder.closeThrough, left]
  refine ⟨_, region, ?_, there⟩
  exact { around with
    mode := rfl
    assembled := ⟨label, { assembled with keeps := List.forall_mem_nil _ }⟩ }

theorem Selecting.interrupt (selecting : Selecting false mode builder)
    {outcome : Builder → Outcome} (passes : Passes outcome) :
    (Select.interrupt outcome builder).All (Steady false) := by
  rw [Select.interrupt]
  split
  · rcases selecting.closeSelection with ⟨next, settled⟩
    exact passes _ (.settled next settled)
  · exact .selecting mode selecting

/-! ## All tokens -/

theorem Selecting.startTag (selecting : Selecting false mode builder) {tag : Tag}
    (stays : StaysAtStart tag.name builder) :
    (Select.startTag tag builder).All (Steady false) := by
  have settle : ∀ {next : Builder}, Selecting false mode next → Steady false next :=
    fun selecting => .selecting mode selecting
  rw [Select.startTag]
  apply choose_induction (motive := fun rule : Builder → Outcome =>
    (rule builder).All (Steady false))
  · simp only [List.forall_mem_cons]
    refine ⟨?html, ?option, ?group, ?ruler, ?select, ?field, ?metadata, List.forall_mem_nil _⟩
    all_goals intro named
    case html => exact settle (selecting.mergeRoot tag)
    case option =>
      exact settle ((selecting.closeCurrent (by decide)).insertChoice
        ((by decide : ["option"] ⊆ choiceNames) named))
    case group =>
      exact settle (((selecting.closeCurrent (by decide)).closeCurrent (by decide)).insertChoice
        ((by decide : ["optgroup"] ⊆ choiceNames) named))
    case ruler =>
      have noItem : tag.name ∉ itemNames := by
        rw [List.mem_singleton.mp named]
        decide
      exact settle
        (((selecting.closeCurrent (by decide)).closeCurrent (by decide)).insertVoid noItem)
    case select => exact selecting.interrupt passes_done
    case field => exact selecting.interrupt passes_again
    case metadata => exact selecting.insertMetadata named stays.common
  · exact fun _ => settle selecting

theorem Selecting.endTag (selecting : Selecting false mode builder) (name : String) :
    (Select.endTag name builder).All (Steady false) := by
  rw [Select.endTag]
  apply choose_induction (motive := fun rule : Builder → Outcome =>
    (rule builder).All (Steady false))
  · simp only [List.forall_mem_cons]
    refine ⟨fun _ => .selecting mode selecting.endGroup,
      fun _ => .selecting mode (selecting.closeCurrent (by decide)),
      fun _ => selecting.interrupt passes_done, fun _ => ?_, List.forall_mem_nil _⟩
    rcases selecting with ⟨region, select, choices, outer, selectingIn⟩
    rw [Head.endTemplate, selectingIn.hasNoTemplate]
    exact .selecting mode ⟨region, select, choices, outer, selectingIn⟩
  · exact fun _ => .selecting mode selecting

theorem Selecting.inSelect (selecting : Selecting false mode builder) {token : Token}
    (stays : builder.strays token = false) :
    (Select.inSelect token builder).All (Steady false) := by
  have text : ∀ content, Steady false (builder.insertText content) := fun _ =>
    .selecting mode (selecting.insertLeaf (fun _ _ => trivial) (fun _ => trivial))
  unfold Select.inSelect
  split
  · exact text _
  · exact text _
  · exact .selecting mode (selecting.insertLeaf (fun _ _ => trivial) (fun _ => trivial))
  · exact selecting.startTag (staysAtStart stays)
  · exact selecting.endTag _
  · rcases selecting with ⟨region, select, choices, outer, selectingIn⟩
    rw [Body.finish, selectingIn.hasNoTemplate]
    exact .selecting mode ⟨region, select, choices, outer, selectingIn⟩
  · exact .selecting mode selecting

theorem Selecting.inSelectInTable (selecting : Selecting false mode builder) {token : Token}
    (stays : builder.strays token = false) :
    (Select.inSelectInTable token builder).All (Steady false) := by
  have ended : Steady false (Select.closeSelection builder) := by
    rcases selecting.closeSelection with ⟨next, settled⟩
    exact .settled next settled
  unfold Select.inSelectInTable
  split
  · split
    · exact ended
    · exact selecting.inSelect stays
  · split
    · split
      · exact ended
      · exact .selecting mode selecting
    · exact selecting.inSelect stays
  · exact selecting.inSelect stays

end Builder

end ChatMarkup.Document
