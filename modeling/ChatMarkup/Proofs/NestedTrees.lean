import ChatMarkup.Document.Tree
import ChatMarkup.Markup.Nesting
import Mathlib.Logic.Function.Basic

/-!
Trees in which every element may stay where it is: none stands directly inside of one that it should
have closed. The changes that building makes to trees keep them so, provided that what is put in
fits. A number belongs to one name, because elements are found by their numbers.
-/

namespace ChatMarkup.Document

/-! ## Names that fit -/

/-- The start tag of `child` does not end an open `parent`. -/
def Fits (parent child : String) : Prop := Markup.closesParent parent child = false

instance (parent child : String) : Decidable (Fits parent child) :=
  inferInstanceAs (Decidable (_ = false))

def itemNames : List String := ["li", "dd", "dt", "td", "th", "tr"]

theorem closesParent_eq_true {parent child : String}
    (closes : Markup.closesParent parent child = true) :
    (parent = "p" ∧ child ∈ Markup.paragraphClosers) ∨ (parent = "li" ∧ child = "li") ∨
      (parent ∈ ["dd", "dt"] ∧ child ∈ ["dd", "dt"]) ∨ (parent = "tr" ∧ child = "tr") ∨
      (parent ∈ cells ∧ child ∈ ["td", "th", "tr"]) := by
  unfold Markup.closesParent at closes
  split at closes
  · exact .inr (.inl ⟨rfl, beq_iff_eq.mp closes⟩)
  · exact .inr (.inr (.inl ⟨by decide, by simpa [or_comm] using closes⟩))
  · exact .inr (.inr (.inl ⟨by decide, by simpa [or_comm] using closes⟩))
  · exact .inr (.inr (.inr (.inl ⟨rfl, beq_iff_eq.mp closes⟩)))
  · exact .inr (.inr (.inr (.inr ⟨by decide, List.contains_iff_mem.mp closes⟩)))
  · exact .inr (.inr (.inr (.inr ⟨by decide, List.contains_iff_mem.mp closes⟩)))
  · exact .inl ⟨rfl, List.contains_iff_mem.mp closes⟩
  · cases closes

/-- An element whose start tag ends nothing but a paragraph fits into everything else. -/
theorem fits_of_ne {parent child : String} (noParagraph : parent ≠ "p")
    (noItem : child ∉ itemNames) : Fits parent child := by
  refine Bool.eq_false_iff.mpr fun closes => noItem ?_
  rcases closesParent_eq_true closes with
    ⟨paragraph, -⟩ | ⟨-, rfl⟩ | ⟨-, term⟩ | ⟨-, rfl⟩ | ⟨-, part⟩
  · exact absurd paragraph noParagraph
  · decide
  · exact (by decide : ["dd", "dt"] ⊆ itemNames) term
  · decide
  · exact (by decide : ["td", "th", "tr"] ⊆ itemNames) part

/-- An element whose start tag ends nothing fits everywhere. -/
theorem fits_of_notMem {child : String} (noCloser : child ∉ Markup.paragraphClosers)
    (noItem : child ∉ itemNames) (parent : String) : Fits parent child := by
  by_cases paragraph : parent = "p"
  · subst paragraph
    exact Bool.eq_false_iff.mpr fun closes => noCloser (List.contains_iff_mem.mp closes)
  · exact fits_of_ne paragraph noItem

/-- Where a table may stand there is no paragraph. -/
theorem ne_paragraph_of_fits_table {parent : String} (fits : Fits parent "table") :
    parent ≠ "p" := by
  rintro rfl
  exact Bool.noConfusion fits

/-! ## Known elements -/

structure Element.Known (label : Nat → String) (bound : Nat) (element : Element) : Prop where
  below : element.number < bound
  named : label element.number = element.name

/-- A labelling that goes on where another one ends. -/
structure Extends (before : Nat → String) (bound : Nat) (label : Nat → String)
    (next : Nat) : Prop where
  more : bound ≤ next
  same : ∀ number < bound, label number = before number

variable {label before : Nat → String} {bound next number : Nat}

/-- One more number, with a name for it. -/
theorem extends_label (label : Nat → String) (bound : Nat) (name : String) :
    Extends label bound (Function.update label bound name) (bound + 1) :=
  ⟨Nat.le_succ bound, fun _ below => Function.update_of_ne (Nat.ne_of_lt below) name label⟩

theorem Element.Known.extend {element : Element} (known : element.Known before bound)
    (goesOn : Extends before bound label next) : element.Known label next :=
  ⟨Nat.lt_of_lt_of_le known.below goesOn.more,
    (goesOn.same _ known.below).trans known.named⟩

/-- Known elements with one number have one name. -/
theorem Element.Known.name_eq {left right : Element} (leftKnown : left.Known label bound)
    (rightKnown : right.Known label bound) (same : left.number = right.number) :
    left.name = right.name := by
  rw [← leftKnown.named, ← rightKnown.named, same]

namespace Tree

/-! ## Nested trees -/

def FitsIn (parent : String) : Tree → Prop
  | .element owner _ => Fits parent owner.name
  | _ => True

mutual

/-- Every element of the tree is known, and fits into the one around it. -/
def Nested (label : Nat → String) (bound : Nat) : Tree → Prop
  | .element owner children =>
    owner.Known label bound ∧ (∀ child ∈ children, child.FitsIn owner.name) ∧
      AllNested label bound children
  | _ => True

def AllNested (label : Nat → String) (bound : Nat) : List Tree → Prop
  | [] => True
  | tree :: rest => tree.Nested label bound ∧ AllNested label bound rest

end

mutual

theorem Nested.extend (goesOn : Extends before bound label next) : {tree : Tree} →
    tree.Nested before bound → tree.Nested label next
  | .element _ _, ⟨known, fit, nested⟩ => ⟨known.extend goesOn, fit, nested.extend goesOn⟩
  | .text _, _ => trivial
  | .comment _, _ => trivial
  | .doctype _, _ => trivial

theorem AllNested.extend (goesOn : Extends before bound label next) : {trees : List Tree} →
    AllNested before bound trees → AllNested label next trees
  | [], _ => trivial
  | _ :: _, ⟨first, rest⟩ => ⟨first.extend goesOn, rest.extend goesOn⟩

end

theorem nested_leaf {owner : Element} (known : owner.Known label bound) :
    (element owner []).Nested label bound :=
  ⟨known, List.forall_mem_nil _, trivial⟩

/-! ## Changing an element -/

/-- What takes the place of trees is nested, and fits wherever they fit. -/
structure Replaces (label : Nat → String) (bound : Nat) (trees changed : List Tree) : Prop where
  nested : AllNested label bound changed
  fit : ∀ parent, (∀ tree ∈ trees, tree.FitsIn parent) → ∀ tree ∈ changed, tree.FitsIn parent

theorem Replaces.cons {trees changed : List Tree} {tree : Tree}
    (replaces : Replaces label bound trees changed) (nested : tree.Nested label bound) :
    Replaces label bound (tree :: trees) (tree :: changed) := by
  refine ⟨⟨nested, replaces.nested⟩, fun parent fit => ?_⟩
  rw [List.forall_mem_cons] at fit ⊢
  exact ⟨fit.1, replaces.fit parent fit.2⟩

theorem Replaces.cons_left {rest : List Tree} {tree new : Tree}
    (nested : new.Nested label bound) (fit : ∀ parent, tree.FitsIn parent → new.FitsIn parent)
    (restNested : AllNested label bound rest) :
    Replaces label bound (tree :: rest) (new :: rest) := by
  refine ⟨⟨nested, restNested⟩, fun parent all => ?_⟩
  rw [List.forall_mem_cons] at all ⊢
  exact ⟨fit parent all.1, all.2⟩

/-- New children for an element. -/
theorem Replaces.element {children changed : List Tree} {owner : Element}
    (replaces : Replaces label bound children changed)
    (nested : (element owner children).Nested label bound) :
    (Tree.element owner changed).Nested label bound :=
  ⟨nested.1, replaces.fit owner.name nested.2.1, replaces.nested⟩

def Keeps (label : Nat → String) (bound number : Nat)
    (change : Element → List Tree → Tree) : Prop :=
  ∀ owner children, owner.number = number → (element owner children).Nested label bound →
    (change owner children).Nested label bound ∧
      ∀ parent, Fits parent owner.name → (change owner children).FitsIn parent

variable {change : Element → List Tree → Tree}

mutual

theorem nested_change (keeps : Keeps label bound number change) : {tree changed : Tree} →
    change? number change tree = some changed → tree.Nested label bound →
      changed.Nested label bound ∧ ∀ parent, tree.FitsIn parent → changed.FitsIn parent
  | .element owner children, changed, found, nested => by
    rw [change?] at found
    split at found
    · rename_i there
      cases found
      exact keeps owner children there nested
    · rcases Option.map_eq_some_iff.mp found with ⟨new, foundInside, rfl⟩
      exact ⟨(replaces_changeAny keeps foundInside nested.2.2).element nested, fun _ => id⟩
  | .text _, _, found, _ => nomatch found
  | .comment _, _, found, _ => nomatch found
  | .doctype _, _, found, _ => nomatch found

theorem replaces_changeAny (keeps : Keeps label bound number change) :
    {trees changed : List Tree} → changeAny? number change trees = some changed →
      AllNested label bound trees → Replaces label bound trees changed
  | [], _, found, _ => nomatch found
  | tree :: rest, changed, found, ⟨nested, restNested⟩ => by
    rw [changeAny?] at found
    split at found
    · rename_i new foundHere
      cases found
      rcases nested_change keeps foundHere nested with ⟨newNested, fit⟩
      exact .cons_left newNested fit restNested
    · rcases Option.map_eq_some_iff.mp found with ⟨new, foundLater, rfl⟩
      exact (replaces_changeAny keeps foundLater restNested).cons nested

end

theorem allNested_changeAny (keeps : Keeps label bound number change) {trees : List Tree}
    (nested : AllNested label bound trees) :
    AllNested label bound ((changeAny? number change trees).getD trees) := by
  cases found : changeAny? number change trees with
  | none => exact nested
  | some changed => exact (replaces_changeAny keeps found nested).nested

/-- A child that fits the name of the numbered element may be added to it. -/
theorem allNested_appendTo {child : Tree} {trees : List Tree} (childNested : child.Nested label bound)
    (fits : child.FitsIn (label number)) (nested : AllNested label bound trees) :
    AllNested label bound (appendTo number child trees) := by
  refine allNested_changeAny (fun owner children there ownerNested => ⟨?_, fun _ => id⟩) nested
  rcases ownerNested with ⟨known, fit, childrenNested⟩
  rw [← there, known.named] at fits
  exact ⟨known, List.forall_mem_cons.mpr ⟨fits, fit⟩, childNested, childrenNested⟩

theorem allNested_addAttributes (attributes : List Attribute) {trees : List Tree}
    (nested : AllNested label bound trees) :
    AllNested label bound (addAttributes number attributes trees) := by
  refine allNested_changeAny (fun owner children _ ownerNested => ⟨?_, fun _ => id⟩) nested
  rcases ownerNested with ⟨known, fit, childrenNested⟩
  exact ⟨⟨known.below, known.named⟩, fit, childrenNested⟩

/-- A parent that fits everywhere, and that everything fits into, may be put around children. -/
theorem allNested_wrapChildren {parent : Element} {trees : List Tree}
    (known : parent.Known label bound) (fits : ∀ outer, Fits outer parent.name)
    (takes : ∀ child, Fits parent.name child) (nested : AllNested label bound trees) :
    AllNested label bound (wrapChildren number parent trees) := by
  refine allNested_changeAny (fun owner children _ ownerNested => ⟨?_, fun _ => id⟩) nested
  have fit : ∀ child ∈ children, child.FitsIn parent.name := by
    intro child _
    cases child with
    | element inner _ => exact takes inner.name
    | text content => trivial
    | comment content => trivial
    | doctype name => trivial
  refine ⟨ownerNested.1, fun child member => ?_, ⟨known, fit, ownerNested.2.2⟩, trivial⟩
  cases List.mem_singleton.mp member
  exact fits owner.name

/-! ## Moving an element -/

/-- Wherever an element with the name fits, the tree fits too. -/
def FitsBeside (name : String) (tree : Tree) : Prop :=
  ∀ parent, Fits parent name → tree.FitsIn parent

theorem fitsIn_of_hasNumber {tree : Tree} (nested : tree.Nested label bound)
    (there : tree.hasNumber number = true) {parent : String} (fits : tree.FitsIn parent) :
    Fits parent (label number) := by
  cases tree with
  | element owner children =>
      rw [← beq_iff_eq.mp there, nested.1.named]
      exact fits
  | _ => cases there

variable {sibling : Tree}

mutual

theorem nested_insertBefore (siblingNested : sibling.Nested label bound)
    (beside : sibling.FitsBeside (label number)) : {tree changed : Tree} →
    insertBefore? number sibling tree = some changed → tree.Nested label bound →
      changed.Nested label bound ∧ ∀ parent, tree.FitsIn parent → changed.FitsIn parent
  | .element owner children, changed, found, nested => by
    rw [insertBefore?] at found
    rcases Option.map_eq_some_iff.mp found with ⟨new, foundInside, rfl⟩
    exact ⟨(replaces_insertBeforeAny siblingNested beside foundInside nested.2.2).element nested,
      fun _ => id⟩
  | .text _, _, found, _ => nomatch found
  | .comment _, _, found, _ => nomatch found
  | .doctype _, _, found, _ => nomatch found

theorem replaces_insertBeforeAny (siblingNested : sibling.Nested label bound)
    (beside : sibling.FitsBeside (label number)) : {trees changed : List Tree} →
    insertBeforeAny? number sibling trees = some changed → AllNested label bound trees →
      Replaces label bound trees changed
  | [], _, found, _ => nomatch found
  | tree :: rest, changed, found, ⟨nested, restNested⟩ => by
    rw [insertBeforeAny?] at found
    split at found
    · rename_i there
      cases found
      refine ⟨⟨nested, siblingNested, restNested⟩, fun parent fit => ?_⟩
      rw [List.forall_mem_cons] at fit
      exact List.forall_mem_cons.mpr ⟨fit.1, List.forall_mem_cons.mpr
        ⟨beside parent (fitsIn_of_hasNumber nested there fit.1), fit.2⟩⟩
    · split at found
      · rename_i new foundHere
        cases found
        rcases nested_insertBefore siblingNested beside foundHere nested with ⟨newNested, fit⟩
        exact .cons_left newNested fit restNested
      · rcases Option.map_eq_some_iff.mp found with ⟨new, foundLater, rfl⟩
        exact (replaces_insertBeforeAny siblingNested beside foundLater restNested).cons nested

end

/-! ## Taking an element out -/

mutual

theorem nested_detach : {tree : Tree} → {detached : Detached Tree} →
    detach? number tree = some detached → tree.Nested label bound →
      detached.tree.Nested label bound ∧ detached.tree.hasNumber number = true ∧
        detached.left.Nested label bound ∧
          ∀ parent, tree.FitsIn parent → detached.left.FitsIn parent
  | .element owner children, detached, found, nested => by
    rw [detach?] at found
    rcases Option.map_eq_some_iff.mp found with ⟨inner, foundInside, rfl⟩
    rcases replaces_detachAny foundInside nested.2.2 with ⟨treeNested, there, replaces⟩
    exact ⟨treeNested, there, replaces.element nested, fun _ => id⟩
  | .text _, _, found, _ => nomatch found
  | .comment _, _, found, _ => nomatch found
  | .doctype _, _, found, _ => nomatch found

theorem replaces_detachAny : {trees : List Tree} → {detached : Detached (List Tree)} →
    detachAny? number trees = some detached → AllNested label bound trees →
      detached.tree.Nested label bound ∧ detached.tree.hasNumber number = true ∧
        Replaces label bound trees detached.left
  | [], _, found, _ => nomatch found
  | tree :: rest, detached, found, ⟨nested, restNested⟩ => by
    rw [detachAny?] at found
    split at found
    · rename_i there
      cases found
      exact ⟨nested, there, restNested, fun parent fit => (List.forall_mem_cons.mp fit).2⟩
    · split at found
      · rename_i inner foundHere
        cases found
        rcases nested_detach foundHere nested with ⟨treeNested, there, leftNested, fit⟩
        exact ⟨treeNested, there, .cons_left leftNested fit restNested⟩
      · rcases Option.map_eq_some_iff.mp found with ⟨inner, foundLater, rfl⟩
        rcases replaces_detachAny foundLater restNested with ⟨treeNested, there, replaces⟩
        exact ⟨treeNested, there, replaces.cons nested⟩

end

end Tree

end ChatMarkup.Document
