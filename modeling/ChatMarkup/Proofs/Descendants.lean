import ChatMarkup.Markup.Node

/-!
The nodes of a forest at any depth: its trees, their children, and so on. An element is told by its
name, and what it directly holds by the names of its children, where the case of letters may be
looked through.
-/

namespace ChatMarkup.Node

variable {node : Node} {left right : List Node}

/-! ## Nodes -/

/-- The node stands somewhere in the forest: it is one of its trees, or stands below one. -/
inductive IsWithin (node : Node) : List Node → Prop
  | top {forest : List Node} (member : node ∈ forest) : IsWithin node forest
  | inside {forest : List Node} {name : String} {children : List Node}
    (member : .element name children ∈ forest) (within : IsWithin node children) :
    IsWithin node forest

theorem not_isWithin_nil : ¬IsWithin node [] := by
  intro within
  cases within with
  | top member => cases member
  | inside member _ => cases member

theorem IsWithin.of_subset (within : IsWithin node left) (subset : left ⊆ right) :
    IsWithin node right := by
  cases within with
  | top member => exact .top (subset member)
  | inside member inner => exact .inside (subset member) inner

theorem isWithin_cons (head : Node) (rest : List Node) :
    IsWithin node (head :: rest) ↔
      (node = head ∨ IsWithin node head.children) ∨ IsWithin node rest := by
  constructor
  · intro within
    cases within with
    | top member =>
        exact (List.mem_cons.mp member).imp .inl .top
    | inside member inner =>
        rcases List.mem_cons.mp member with rfl | member
        · exact .inl (.inr inner)
        · exact .inr (.inside member inner)
  · rintro ((rfl | inner) | within)
    · exact .top List.mem_cons_self
    · cases head with
      | element name children => exact .inside List.mem_cons_self inner
      | text content => exact absurd inner not_isWithin_nil
      | comment => exact absurd inner not_isWithin_nil
    · exact within.of_subset (List.subset_cons_self ..)

theorem isWithin_append :
    IsWithin node (left ++ right) ↔ IsWithin node left ∨ IsWithin node right := by
  induction left with
  | nil => simp [not_isWithin_nil]
  | cons head rest induction =>
      rw [List.cons_append, isWithin_cons, isWithin_cons, induction]
      exact or_assoc.symm

theorem isWithin_reverse (forest : List Node) :
    IsWithin node forest.reverse ↔ IsWithin node forest :=
  ⟨fun within => within.of_subset fun _ => List.mem_reverse.mp,
    fun within => within.of_subset fun _ => List.mem_reverse.mpr⟩

/-! ## Elements -/

def HasElement (name : String) (forest : List Node) : Prop :=
  ∃ children, IsWithin (.element name children) forest

section Elements

variable {name : String}

theorem not_hasElement_nil : ¬HasElement name [] := fun ⟨_, within⟩ => not_isWithin_nil within

theorem hasElement_append :
    HasElement name (left ++ right) ↔ HasElement name left ∨ HasElement name right := by
  simp only [HasElement, isWithin_append, exists_or]

theorem hasElement_reverse (forest : List Node) :
    HasElement name forest.reverse ↔ HasElement name forest := by
  simp only [HasElement, isWithin_reverse]

theorem hasElement_element (owner : String) (children : List Node) :
    HasElement name [.element owner children] ↔ name = owner ∨ HasElement name children := by
  simp only [HasElement, isWithin_cons, not_isWithin_nil, or_false, exists_or]
  refine or_congr ⟨?_, ?_⟩ Iff.rfl
  · rintro ⟨inner, same⟩
    exact (Node.element.inj same).1
  · rintro rfl
    exact ⟨children, rfl⟩

end Elements

/-! ## Names in any case -/

def AnyCalled (name : String) (nodes : List Node) : Prop :=
  ∃ written inner, .element written inner ∈ nodes ∧ lowercaseName written = name

/-- Somewhere in the forest an element called `parent` has a child called `child`, in any case of
their letters. -/
def Encloses (parent child : String) (forest : List Node) : Prop :=
  ∃ written children, IsWithin (.element written children) forest ∧
    lowercaseName written = parent ∧ AnyCalled child children

section Names

variable {name parent child : String}

theorem AnyCalled.of_subset (called : AnyCalled name left) (subset : left ⊆ right) :
    AnyCalled name right :=
  called.imp fun _ => Exists.imp fun _ => And.imp_left fun member => subset member

theorem anyCalled_element (written : String) (children rest : List Node) :
    AnyCalled name (.element written children :: rest) ↔
      lowercaseName written = name ∨ AnyCalled name rest := by
  constructor
  · rintro ⟨other, inner, member, called⟩
    rcases List.mem_cons.mp member with same | member
    · exact .inl ((Node.element.inj same).1 ▸ called)
    · exact .inr ⟨other, inner, member, called⟩
  · rintro (called | ⟨other, inner, member, called⟩)
    · exact ⟨written, children, List.mem_cons_self, called⟩
    · exact ⟨other, inner, List.mem_cons_of_mem _ member, called⟩

theorem not_encloses_nil : ¬Encloses parent child [] := fun ⟨_, _, within, _⟩ =>
  not_isWithin_nil within

theorem Encloses.of_subset (encloses : Encloses parent child left) (subset : left ⊆ right) :
    Encloses parent child right :=
  encloses.imp fun _ => Exists.imp fun _ => And.imp_left fun within => within.of_subset subset

theorem encloses_element (written : String) (children rest : List Node) :
    Encloses parent child (.element written children :: rest) ↔
      (lowercaseName written = parent ∧ AnyCalled child children) ∨
        Encloses parent child children ∨ Encloses parent child rest := by
  constructor
  · rintro ⟨other, inner, within, called, holds⟩
    rcases (isWithin_cons _ rest).mp within with (same | below) | later
    · rcases Node.element.inj same with ⟨rfl, rfl⟩
      exact .inl ⟨called, holds⟩
    · exact .inr (.inl ⟨other, inner, below, called, holds⟩)
    · exact .inr (.inr ⟨other, inner, later, called, holds⟩)
  · rintro (⟨called, holds⟩ | ⟨other, inner, below, called, holds⟩ |
      ⟨other, inner, later, called, holds⟩)
    · exact ⟨written, children, .top List.mem_cons_self, called, holds⟩
    · exact ⟨other, inner, .inside List.mem_cons_self below, called, holds⟩
    · exact ⟨other, inner, later.of_subset (List.subset_cons_self ..), called, holds⟩

def isLeaf : Node → Bool
  | .element .. => false
  | _ => true

theorem anyCalled_leaf (leaf : node.isLeaf = true) (rest : List Node) :
    AnyCalled name (node :: rest) ↔ AnyCalled name rest := by
  cases node with
  | element written children => cases leaf
  | text content => simp [AnyCalled]
  | comment => simp [AnyCalled]

theorem encloses_leaf (leaf : node.isLeaf = true) (rest : List Node) :
    Encloses parent child (node :: rest) ↔ Encloses parent child rest := by
  cases node with
  | element written children => cases leaf
  | text content => simp [Encloses, isWithin_cons, children, not_isWithin_nil]
  | comment => simp [Encloses, isWithin_cons, children, not_isWithin_nil]

end Names

end ChatMarkup.Node
