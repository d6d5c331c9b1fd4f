import ChatMarkup.Proofs.PageTokens
import ChatMarkup.Proofs.SteadyHead
import ChatMarkup.Proofs.SteadySelection

/-!
A page none of whose tags strays is built with every element in its place. Each token leaves a steady
builder steady, whatever the mode, and the trees of a steady builder are nested.
-/

namespace ChatMarkup.Document

namespace Builder

variable {kept : List Element} {mode : Mode} {fostering : Bool} {region : Element}
  {builder : Builder}

/-! ## The body and what comes after it -/

theorem SoundIn.inBodyRegion (sound : SoundIn [] mode false region builder)
    (there : region.isAnyOf (regionsOf mode) = true) (here : region.isAnyOf ["body"] = true)
    {token : Token} (stays : builder.strays token = false) :
    (Body.inBody token builder).All (Steady false) := by
  apply sound.inBody there (Element.isAnyOf_of_subset (by decide) here) _ stays
  intro name _ other
  exact isNamed_of_notMem here (mt List.mem_singleton.mp other)

theorem SoundIn.insertRootComment (sound : SoundIn kept mode fostering region builder)
    (content : List Char) :
    SoundIn kept mode fostering region (Body.insertRootComment content builder) := by
  unfold Body.insertRootComment
  split
  · exact sound.withTrees fun _ => Tree.allNested_appendTo trivial trivial
  · exact sound

theorem SoundIn.insertOuterComment (sound : SoundIn kept mode fostering region builder)
    (content : List Char) :
    SoundIn kept mode fostering region (builder.insertOuterComment content) :=
  sound.withTrees fun _ nested => ⟨trivial, nested⟩

theorem SoundIn.afterBody (sound : SoundIn [] .afterBody false region builder)
    (here : region.isAnyOf ["body"] = true) {token : Token}
    (stays : builder.strays token = false) :
    (Body.afterBody token builder).All (Steady false) := by
  have settle : ∀ {next : Builder}, SoundIn [] .afterBody false region next → Steady false next :=
    fun sound => .settled _ ⟨region, sound, here⟩
  have back : Steady false (builder.goTo .inBody) :=
    .settled _ ⟨region, sound.goTo .inBody, here⟩
  unfold Body.afterBody
  split
  · exact sound.inBodyRegion here here stays
  · exact settle (sound.insertRootComment _)
  · split
    · exact settle (sound.mergeRoot _)
    · exact back
  · split
    · exact .settled _ ⟨region, sound.goTo .afterAfterBody, here⟩
    · exact back
  · exact settle sound
  · exact back

theorem SoundIn.afterAfterBody (sound : SoundIn [] .afterAfterBody false region builder)
    (here : region.isAnyOf ["body"] = true) {token : Token}
    (stays : builder.strays token = false) :
    (Body.afterAfterBody token builder).All (Steady false) := by
  have settle : ∀ {next : Builder}, SoundIn [] .afterAfterBody false region next →
      Steady false next := fun sound => .settled _ ⟨region, sound, here⟩
  have back : Steady false (builder.goTo .inBody) :=
    .settled _ ⟨region, sound.goTo .inBody, here⟩
  unfold Body.afterAfterBody
  split
  · exact sound.inBodyRegion here here stays
  · exact settle (sound.insertOuterComment _)
  · split
    · exact settle (sound.mergeRoot _)
    · exact back
  · exact settle sound
  · exact back

/-! ## Raw text -/

theorem Rests.steady (rests : Rests fostering mode builder) : Steady fostering builder :=
  rests.elim (.settled mode) (.selecting mode)

/-- There is room for text everywhere. -/
theorem exists_insertText {label : Nat → String} {bound : Nat} (content : List Char)
    (nested : Tree.AllNested label bound builder.trees) :
    ∃ trees, builder.insertText content = { builder with trees } ∧
      Tree.AllNested label bound trees := by
  have suits : Suits label (.text content) builder.place := by
    cases builder.place with
    | none => trivial
    | some place =>
        cases place with
        | inside number => trivial
        | before table opened => exact ⟨fun _ _ => trivial, fun _ _ => trivial⟩
  exact exists_insertAt suits trivial nested

theorem Steady.insertRawText (raw : builder.mode = .text)
    (html : builder.currentIs Element.isHtml = true)
    (rests : Rests fostering builder.returnMode (builder.pop.goTo builder.returnMode))
    (content : List Char) : Steady fostering (builder.insertText content) := by
  have placed : ∀ {label : Nat → String} {bound : Nat}, Tree.AllNested label bound builder.trees →
      ∃ trees, builder.insertText content = { builder with trees } ∧
        Tree.AllNested label bound trees := exists_insertText content
  rcases rests with ⟨region, sound, there⟩ | ⟨region, select, choices, outer, selecting⟩
  · rcases sound.assembled with ⟨label, assembled⟩
    rcases placed assembled.nested with ⟨trees, inserted, nested⟩
    rw [inserted]
    exact .inText raw html (.inl ⟨region, { sound with
      assembled := ⟨label, assembled.withTrees nested⟩ }, there⟩)
  · rcases selecting.sound.assembled with ⟨label, assembled⟩
    rcases placed assembled.nested with ⟨trees, inserted, nested⟩
    rw [inserted]
    exact .inText raw html (.inr ⟨region, select, choices, outer, { selecting with
      sound := { selecting.sound with assembled := ⟨label, assembled.withTrees nested⟩ } }⟩)

theorem Steady.inRawText (raw : builder.mode = .text)
    (html : builder.currentIs Element.isHtml = true)
    (rests : Rests fostering builder.returnMode (builder.pop.goTo builder.returnMode))
    (token : Token) : (Body.inText token builder).All (Steady fostering) := by
  unfold Body.inText
  split
  · exact Steady.insertRawText raw html rests _
  · exact Steady.insertRawText raw html rests _
  · exact rests.steady
  · exact rests.steady.withReading _ _ _
  · exact .inText raw html rests

/-! ## All modes -/

theorem Starting.stepMode (starting : Starting false builder) (token : Token) :
    (builder.stepMode token).All (Steady false) := by
  rcases starting.mode with mode | mode
  · rw [Builder.stepMode, mode]
    exact starting.initial token
  · rw [Builder.stepMode, mode]
    exact starting.beforeHtml token

theorem SoundIn.stepMode (sound : SoundIn [] mode false region builder)
    (there : region.isAnyOf (regionsOf mode) = true) {token : Token}
    (stays : builder.strays token = false) :
    (builder.stepMode token).All (Steady false) := by
  have noMode : regionsOf mode ≠ [] := by
    intro none
    rw [none] at there
    exact absurd (Element.name_mem_of_isAnyOf there) List.not_mem_nil
  rw [Builder.stepMode, sound.mode]
  cases mode with
  | beforeHead => exact sound.beforeHead there token
  | inHead => exact sound.inHead there stays
  | afterHead => exact sound.afterHead there stays
  | inBody => exact sound.inBodyRegion there there stays
  | inTable =>
      exact sound.inTable there (Element.isAnyOf_of_subset (by decide) there)
        (fun _ _ _ => there) stays
  | inCaption => exact sound.inCaption there stays
  | inColumnGroup => exact sound.inColumnGroup there stays
  | inTableBody => exact sound.inTableBody there stays
  | inRow => exact sound.inRow there stays
  | inCell => exact sound.inCell there stays
  | afterBody => exact sound.afterBody there stays
  | afterAfterBody => exact sound.afterAfterBody there stays
  | initial | beforeHtml | text | inTableText | inSelect | inSelectInTable | inTemplate
  | inFrameset | afterFrameset | afterAfterFrameset => exact absurd rfl noMode

theorem Selecting.stepMode (selecting : Selecting false mode builder) {token : Token}
    (stays : builder.strays token = false) : (builder.stepMode token).All (Steady false) := by
  have again := selecting
  rcases again with ⟨_, _, _, _, selectingIn⟩
  have inMode : builder.mode = mode := selectingIn.sound.mode
  rw [Builder.stepMode, inMode]
  rcases selectingIn.selects with rfl | rfl
  · exact selecting.inSelect stays
  · exact selecting.inSelectInTable stays

theorem Steady.stepMode (steady : Steady false builder) {token : Token}
    (stays : builder.strays token = false) : (builder.stepMode token).All (Steady false) := by
  cases steady with
  | starting starting => exact starting.stepMode token
  | settled mode settled =>
      rcases settled with ⟨region, sound, there⟩
      exact sound.stepMode there stays
  | selecting mode selecting => exact selecting.stepMode stays
  | inTableText mode shows settled =>
      rw [Builder.stepMode, mode]
      exact settled.inTableText mode shows token
  | inText mode html rests =>
      rw [Builder.stepMode, mode]
      exact Steady.inRawText mode html rests token

/-! ## Taking tokens -/

theorem takesToken_eq_false {element : Element} (html : element.isHtml = true) (token : Token) :
    takesToken element token = false := by
  cases token <;> simp [takesToken, html]

theorem SoundIn.current_isHtml (sound : SoundIn kept mode fostering region builder)
    (token : Token) : builder.currentIs (takesToken · token) = false := by
  have spine := sound.spine
  rw [currentIs]
  cases stack : builder.stack with
  | nil => rfl
  | cons element outer =>
      rw [stack] at spine
      exact takesToken_eq_false spine.1 token

theorem Steady.takesToken (steady : Steady false builder) (token : Token) :
    builder.currentIs (takesToken · token) = false := by
  cases steady with
  | starting starting => rw [currentIs, starting.empty]; rfl
  | settled mode settled =>
      rcases settled with ⟨region, sound, -⟩
      exact sound.current_isHtml token
  | selecting mode selecting =>
      rcases selecting with ⟨region, select, choices, outer, selecting⟩
      rcases selecting.isAnyOf_current with ⟨current, rest, stack, -, latest⟩
      rw [currentIs, stack]
      exact takesToken_eq_false (Element.isHtml_of_isAnyOf latest) token
  | inTableText mode shows settled =>
      rcases settled with ⟨region, sound, -⟩
      exact sound.current_isHtml token
  | inText mode html rests =>
      rcases exists_of_currentIs html with ⟨element, outer, stack, html⟩
      rw [currentIs, stack]
      exact takesToken_eq_false html token

theorem Steady.step (steady : Steady false builder) {token : Token}
    (stays : builder.strays token = false) : (builder.step token).All (Steady false) := by
  rw [Builder.step, steady.takesToken token]
  exact steady.stepMode stays

theorem Steady.takeWithin {token : Token} {bound : Nat} (steady : Steady false builder)
    (stays : straysWithin bound token builder = false) :
    Steady false (Builder.takeWithin bound token builder) := by
  induction bound generalizing builder with
  | zero => exact steady
  | succ bound induction =>
      rw [straysWithin, Bool.or_eq_false_iff] at stays
      have stepped := steady.step stays.1
      rw [Builder.takeWithin]
      split
      · rename_i used done
        rw [done] at stepped
        exact stepped
      · rename_i next again
        rw [again] at stepped stays
        exact induction stepped stays.2

theorem Steady.takeDoctype (steady : Steady false builder) (tableInParagraph : Bool)
    (name : String) : Steady false (builder.takeDoctype tableInParagraph name) := by
  unfold Builder.takeDoctype
  split
  · rename_i initial
    cases steady with
    | starting starting =>
        rcases starting.assembled with ⟨label, assembled⟩
        have nested : Tree.AllNested label builder.nextNumber (.doctype name :: builder.trees) :=
          ⟨trivial, assembled.nested⟩
        exact .starting { starting with
          mode := .inr rfl
          assembled := ⟨label, assembled.withTrees nested⟩ }
    | settled mode settled =>
        rcases settled with ⟨region, sound, there⟩
        rw [← sound.mode, initial] at there
        exact absurd (Element.name_mem_of_isAnyOf there) List.not_mem_nil
    | selecting mode selecting =>
        rcases selecting with ⟨region, select, choices, outer, selecting⟩
        have inMode : builder.mode = mode := selecting.sound.mode
        rw [← inMode, initial] at selecting
        exact absurd selecting.selects (by decide)
    | inTableText mode => rw [mode] at initial; cases initial
    | inText mode => rw [mode] at initial; cases initial
  · exact steady

theorem Steady.take (steady : Steady false builder) {token : Token}
    (stays : builder.straysWhenTaken token = false) : Steady false (builder.take token) := by
  have plain := steady.withReading false .markup false
  unfold Builder.take
  unfold straysWhenTaken at stays
  cases taken : (if builder.skipsBreak then withoutBreak token else some token) with
  | none => exact plain
  | some taken' =>
      rw [taken] at stays
      cases taken' with
      | doctype doctype => exact plain.takeDoctype doctype.isOld doctype.name
      | fault => exact plain
      | startTag _ | endTag _ | comment _ | space _ | text _ | null | finish =>
          exact plain.takeWithin stays

/-! ## Whole pages -/

theorem Steady.foldl_take {tokens : List Token} (steady : Steady false builder)
    (stay : straysAmong tokens builder = false) : Steady false (tokens.foldl Builder.take builder) := by
  induction tokens generalizing builder with
  | nil => exact steady
  | cons token rest induction =>
      rw [straysAmong, Bool.or_eq_false_iff] at stay
      exact induction (steady.take stay.1) stay.2

theorem steady_start : Steady false .start :=
  .starting {
    mode := .inl rfl
    fosters := rfl
    noTemplate := rfl
    stretches := List.forall_mem_nil _
    empty := rfl
    assembled := ⟨fun _ => "", {
      nested := trivial
      spine := trivial
      known := List.forall_mem_nil _
      entries := fun _ member => absurd member List.not_mem_nil
      head := fun _ none => by cases none
      form := fun _ none => by cases none
      keeps := List.forall_mem_nil _ }⟩ }

theorem Rests.nested (rests : Rests fostering mode builder) :
    ∃ label bound, Tree.AllNested label bound builder.trees := by
  rcases rests with ⟨region, sound, -⟩ | ⟨region, select, choices, outer, selecting⟩
  · rcases sound.assembled with ⟨label, assembled⟩
    exact ⟨label, _, assembled.nested⟩
  · rcases selecting.sound.assembled with ⟨label, assembled⟩
    exact ⟨label, _, assembled.nested⟩

theorem Steady.nested (steady : Steady fostering builder) :
    ∃ label bound, Tree.AllNested label bound builder.trees := by
  cases steady with
  | starting starting =>
      rcases starting.assembled with ⟨label, assembled⟩
      exact ⟨label, _, assembled.nested⟩
  | settled mode settled => exact Rests.nested (.inl settled)
  | selecting mode selecting => exact Rests.nested (.inr selecting)
  | inTableText mode shows settled =>
      have rests : Rests fostering builder.returnMode (builder.goTo builder.returnMode) :=
        .inl settled
      exact rests.nested
  | inText mode html rests => exact rests.nested

end Builder

/-- Where no tag strays, no element is built directly inside of one that it should have closed. -/
theorem read_nested {page : List Char} (stay : Builder.straysAmong (tokens page) .start = false) :
    ∃ label bound, Tree.AllNested label bound (read page) := by
  rw [read_eq_foldl_take]
  exact (Builder.steady_start.foldl_take stay).nested

end ChatMarkup.Document
