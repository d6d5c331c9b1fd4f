import ChatMarkup.Proofs.Descendants
import ChatMarkup.Proofs.RoundTrip

/-!
What the search for misnested elements finds. Some element of a forest, at whatever depth, has a
child that should have closed it: this is the case exactly if the search says so. So the answer is
the same for all forests in which the same names enclose each other, whatever their texts and
comments are, in whatever case the names are written, and whatever the order of siblings is.
-/

namespace ChatMarkup

namespace Node

/-! ## Pairs of parent and child -/

def HoldsMisnested (forest : List Node) : Prop :=
  ∃ parent child, Encloses parent child forest ∧ Markup.closesParent parent child = true

theorem any_misnestedIn_iff (parent : String) (children : List Node) :
    children.any (Markup.misnestedIn parent) = true ↔
      ∃ child, AnyCalled child children ∧
        Markup.closesParent (lowercaseName parent) child = true := by
  rw [List.any_eq_true]
  constructor
  · rintro ⟨node, member, closes⟩
    cases node with
    | element name inner => exact ⟨lowercaseName name, ⟨name, inner, member, rfl⟩, closes⟩
    | text content => cases closes
    | comment => cases closes
  · rintro ⟨child, ⟨name, inner, member, rfl⟩, closes⟩
    exact ⟨.element name inner, member, closes⟩

theorem not_holdsMisnested_nil : ¬HoldsMisnested [] := fun ⟨_, _, encloses, _⟩ =>
  not_encloses_nil encloses

theorem holdsMisnested_element (name : String) (children rest : List Node) :
    HoldsMisnested (.element name children :: rest) ↔
      (children.any (Markup.misnestedIn name) = true ∨ HoldsMisnested children) ∨
        HoldsMisnested rest := by
  rw [any_misnestedIn_iff]
  constructor
  · rintro ⟨parent, child, encloses, closes⟩
    rcases (encloses_element name children rest).mp encloses with ⟨rfl, called⟩ | below | later
    · exact .inl (.inl ⟨child, called, closes⟩)
    · exact .inl (.inr ⟨parent, child, below, closes⟩)
    · exact .inr ⟨parent, child, later, closes⟩
  · rintro ((⟨child, called, closes⟩ | ⟨parent, child, below, closes⟩) |
      ⟨parent, child, later, closes⟩)
    · exact ⟨_, child, (encloses_element ..).mpr (.inl ⟨rfl, called⟩), closes⟩
    · exact ⟨parent, child, (encloses_element ..).mpr (.inr (.inl below)), closes⟩
    · exact ⟨parent, child, (encloses_element ..).mpr (.inr (.inr later)), closes⟩

theorem holdsMisnested_leaf {node : Node} (leaf : node.isLeaf = true) (rest : List Node) :
    HoldsMisnested (node :: rest) ↔ HoldsMisnested rest := by
  simp only [HoldsMisnested, encloses_leaf leaf]

/-- The recursion on the trees reaches every element. -/
theorem areMisnested_iff : (forest : List Node) →
    (areMisnested forest = true ↔ HoldsMisnested forest)
  | [] => iff_of_false Bool.false_ne_true not_holdsMisnested_nil
  | .element name children :: rest => by
      rw [areMisnested, isMisnested, holdsMisnested_element, Bool.or_eq_true, Bool.or_eq_true,
        areMisnested_iff children, areMisnested_iff rest]
  | .text content :: rest => by
      rw [holdsMisnested_leaf rfl, ← areMisnested_iff rest]
      rfl
  | .comment :: rest => by
      rw [holdsMisnested_leaf rfl, ← areMisnested_iff rest]
      rfl

/-! ## What the answer does not depend on -/

/-- The forests have the same elements in each other. Their texts and comments, the case of letters
in names, and the order of siblings may differ. -/
inductive SameElements : List Node → List Node → Prop
  | order {left right : List Node} (perm : left.Perm right) : SameElements left right
  | element {left right : String} {leftChildren rightChildren leftRest rightRest : List Node}
    (sameName : lowercaseName left = lowercaseName right)
    (children : SameElements leftChildren rightChildren)
    (rest : SameElements leftRest rightRest) :
    SameElements (.element left leftChildren :: leftRest)
      (.element right rightChildren :: rightRest)
  | text (content : List Char) {left right : List Node} (rest : SameElements left right) :
    SameElements (.text content :: left) right
  | comment {left right : List Node} (rest : SameElements left right) :
    SameElements (.comment :: left) right
  | symm {left right : List Node} (same : SameElements left right) : SameElements right left
  | trans {left between right : List Node} (first : SameElements left between)
    (second : SameElements between right) : SameElements left right

namespace SameElements

variable {left right : List Node}

theorem anyCalled_iff (same : SameElements left right) (name : String) :
    AnyCalled name left ↔ AnyCalled name right := by
  induction same with
  | order perm => exact ⟨(·.of_subset perm.subset), (·.of_subset perm.symm.subset)⟩
  | element sameName _ _ _ rest => rw [anyCalled_element, anyCalled_element, sameName, rest]
  | text content _ rest => rw [anyCalled_leaf rfl, rest]
  | comment _ rest => rw [anyCalled_leaf rfl, rest]
  | symm _ induction => exact induction.symm
  | trans _ _ first second => exact first.trans second

theorem encloses_iff (same : SameElements left right) (parent child : String) :
    Encloses parent child left ↔ Encloses parent child right := by
  induction same with
  | order perm => exact ⟨(·.of_subset perm.subset), (·.of_subset perm.symm.subset)⟩
  | element sameName childrenAlike _ children rest =>
      rw [encloses_element, encloses_element, sameName, childrenAlike.anyCalled_iff, children, rest]
  | text content _ rest => rw [encloses_leaf rfl, rest]
  | comment _ rest => rw [encloses_leaf rfl, rest]
  | symm _ induction => exact induction.symm
  | trans _ _ first second => exact first.trans second

theorem holdsMisnested_iff (same : SameElements left right) :
    HoldsMisnested left ↔ HoldsMisnested right := by
  simp only [HoldsMisnested, same.encloses_iff]

end SameElements

end Node

/-! ## The search -/

open Node

theorem hasMisnested_iff (forest : List Node) :
    Markup.hasMisnested forest = true ↔ HoldsMisnested forest := by
  rw [hasMisnested_eq, areMisnested_iff]

/-- The search finds a misnested element exactly in the forests in which some element directly
encloses one that should have closed it, and it answers alike for all forests with the same
elements. -/
theorem misnesting_found_exactly (forest : List Node) :
    (Markup.hasMisnested forest = true ↔
      ∃ name children child inner, IsWithin (.element name children) forest ∧
        .element child inner ∈ children ∧
          Markup.closesParent (lowercaseName name) (lowercaseName child) = true) ∧
      ∀ other, SameElements forest other →
        Markup.hasMisnested other = Markup.hasMisnested forest := by
  refine ⟨(hasMisnested_iff forest).trans ⟨?_, ?_⟩, fun other same => ?_⟩
  · rintro ⟨_, _, ⟨name, children, within, rfl, child, inner, member, rfl⟩, closes⟩
    exact ⟨name, children, child, inner, within, member, closes⟩
  · rintro ⟨name, children, child, inner, within, member, closes⟩
    exact ⟨_, _, ⟨name, children, within, rfl, child, inner, member, rfl⟩, closes⟩
  · rw [Bool.eq_iff_iff, hasMisnested_iff, hasMisnested_iff, same.holdsMisnested_iff]

theorem misnesting_found_in_any_order :
    Markup.hasMisnested [.text ['x'], .element "UL" [.element "li" [],
        .element "li" [.comment, .element "b" [], .element "LI" []]]] = true ∧
      Markup.hasMisnested [.element "ul" [.element "LI" [.element "li" [], .element "B" []],
        .text ['y'], .element "li" []]] = true := by
  have list : lowercaseName "UL" = lowercaseName "ul" := by decide +kernel
  have listItem : lowercaseName "li" = lowercaseName "LI" := by decide +kernel
  have bold : lowercaseName "b" = lowercaseName "B" := by decide +kernel
  have inItem : SameElements [.comment, .element "b" [], .element "LI" []]
      [.element "li" [], .element "B" []] :=
    .comment <| .trans (.order (.swap ..)) <| .element listItem.symm (.order .nil) <|
      .element bold (.order .nil) (.order .nil)
  have inList : SameElements
      [.element "li" [], .element "li" [.comment, .element "b" [], .element "LI" []]]
      [.element "LI" [.element "li" [], .element "B" []], .text ['y'], .element "li" []] :=
    .trans (.order (.swap ..)) <| .element listItem inItem <|
      .symm (.text ['y'] (.order (.refl _)))
  have same := (misnesting_found_exactly _).2 _
    (.symm (.text ['x'] (.element list inList (.order .nil))))
  have found : Markup.hasMisnested [.element "ul" [.element "LI" [.element "li" [],
      .element "B" []], .text ['y'], .element "li" []]] = true := by decide +kernel
  exact ⟨same.trans found, found⟩

end ChatMarkup
