import ChatMarkup.Markup.Nesting

/-!
Nodes that are kept apart from each other and reached by handles. A parsed page holds its nodes in
this way, so that an element knows its children without containing them.
-/

namespace ChatMarkup

/-- A node whose children are handles of other nodes. -/
inductive Cell (Handle : Type) where
  | element (name : String) (children : List Handle)
  | text (content : List Char)
  | comment

def weigh {α : Type} (weight : α → Nat) (items : List α) : Nat :=
  items.foldr (fun item rest => weight item + rest) 0

theorem weigh_cons {α : Type} (weight : α → Nat) (item : α) (rest : List α) :
    weigh weight (item :: rest) = weight item + weigh weight rest :=
  rfl

/-- The nodes that handles lead to. A handle may lead to no node. What is below a handle is finite,
because a handle has at least as many descendants as its children and theirs together. -/
structure Arena (Handle : Type) where
  cell? : Handle → Option (Cell Handle)
  descendants : Handle → Nat
  descendants_le : ∀ {handle name children}, cell? handle = some (.element name children) →
    weigh (fun child => descendants child + 1) children ≤ descendants handle

theorem Arena.descendants_lt {Handle : Type} (arena : Arena Handle) {handle child : Handle}
    {name : String} {children : List Handle}
    (found : arena.cell? handle = some (.element name children)) (member : child ∈ children) :
    arena.descendants child < arena.descendants handle := by
  refine Nat.lt_of_lt_of_le ?_ (arena.descendants_le found)
  clear found
  induction children with
  | nil => cases member
  | cons head rest induction =>
      rw [weigh_cons]
      rcases List.mem_cons.mp member with rfl | member
      · omega
      · have := induction member
        omega

namespace Node

def cell : Node → Cell Node
  | .element name children => .element name children
  | .text content => .text content
  | .comment => .comment

theorem nodeCount_eq (node : Node) :
    Markup.nodeCount node = Markup.nodeCounts node.children + 1 := by
  cases node <;> rfl

theorem nodeCounts_eq_weigh (nodes : List Node) :
    Markup.nodeCounts nodes = weigh (fun node => Markup.nodeCounts node.children + 1) nodes := by
  induction nodes with
  | nil => rfl
  | cons node rest induction =>
      rw [Markup.nodeCounts, induction, nodeCount_eq, weigh_cons]

def arena : Arena Node where
  cell? node := some node.cell
  descendants node := Markup.nodeCounts node.children
  descendants_le {node name children} found := by
    cases node with
    | element owner inner =>
        rcases Cell.element.inj (Option.some.inj found) with ⟨-, rfl⟩
        exact Nat.le_of_eq (nodeCounts_eq_weigh inner).symm
    | text content => cases found
    | comment => cases found

end Node

end ChatMarkup
