import ChatMarkup.Proofs.AlikeTrees
import ChatMarkup.Proofs.VisibleText

/-!
Options as a change of the tree. Whether references are decoded and whether names are lowercased can
be settled in the tree, before the walk: the tree with the options applied to its texts and names
gives without options what the tree gives with them. So the case of names does not show where names
are lowercased.
-/

namespace ChatMarkup

def Options.plain : Options := ⟨false, false⟩

/-! ## Trees with the options applied -/

section Applied

variable (options : Options)

def Cell.applied {Handle : Type} : Cell Handle → Cell Handle
  | .element name children =>
    .element (if options.lowercaseTags then lowercaseName name else name) children
  | .text content =>
    .text (if options.decodeEntities then Text.decodeReferences content else content)
  | .comment => .comment

def Arena.applied {Handle : Type} (arena : Arena Handle) : Arena Handle where
  cell? handle := (arena.cell? handle).map (Cell.applied options)
  descendants := arena.descendants
  descendants_le {handle name children} found := by
    rcases Option.map_eq_some_iff.mp found with ⟨cell, cellFound, same⟩
    cases cell with
    | element written inner =>
        rcases Cell.element.inj same with ⟨-, rfl⟩
        exact arena.descendants_le cellFound
    | text content => cases same
    | comment => cases same

mutual

def Node.applied : Node → Node
  | .element name children =>
    .element (if options.lowercaseTags then lowercaseName name else name)
      (Node.appliedAll children)
  | .text content =>
    .text (if options.decodeEntities then Text.decodeReferences content else content)
  | .comment => .comment

def Node.appliedAll : List Node → List Node
  | [] => []
  | node :: rest => node.applied :: Node.appliedAll rest

end

end Applied

/-! ## The walk with and without options -/

theorem shownText_plain (content : List Char) : shownText .plain content = content := rfl

theorem elementName_plain (name : String) : elementName .plain name = name := rfl

namespace Arena

variable {Handle : Type}

theorem cell?_applied (options : Options) (arena : Arena Handle) (handle : Handle) :
    (arena.applied options).cell? handle = (arena.cell? handle).map (Cell.applied options) :=
  rfl

/-- Names are read at the lookup of a rule and among the children of a list, and texts where they
are shown; everywhere the options do what they did to the tree. -/
theorem format_applied (options : Options) (arena : Arena Handle) (root : Handle) :
    arena.format options root = (arena.applied options).format .plain root := by
  have agree : ∀ left right, left = right → AlikeCells arena options (arena.applied options) .plain
      Eq (arena.cell? left) ((arena.applied options).cell? right) := by
    rintro handle _ rfl
    rw [cell?_applied]
    rcases arena.cell? handle with _ | ⟨name, children⟩ | content | _
    · exact .silent rfl rfl
    · exact .children (elementName_plain _).symm (List.forall₂_same.mpr fun _ _ => rfl)
    · exact .text (shownText_plain _).symm
    · exact .silent rfl rfl
  exact (sameText_of_alike Eq agree rfl).text

end Arena

namespace Node

theorem forall₂_appliedAll (options : Options) (nodes : List Node) :
    List.Forall₂ (fun node applied => applied = node.applied options) nodes
      (appliedAll options nodes) := by
  induction nodes with
  | nil => exact .nil
  | cons node rest induction => exact .cons rfl induction

theorem format_applied (options : Options) (node : Node) :
    node.format options = (node.applied options).format .plain := by
  have agree : ∀ left right, right = left.applied options → Arena.AlikeCells arena options arena
      .plain (fun left right => right = left.applied options) (arena.cell? left)
      (arena.cell? right) := by
    rintro left _ rfl
    cases left with
    | element name children =>
        exact .children (elementName_plain _).symm (forall₂_appliedAll options children)
    | text content => exact .text (shownText_plain _).symm
    | comment => exact .silent rfl rfl
  have same : arena.format options node = arena.format .plain (node.applied options) :=
    (Arena.sameText_of_alike _ agree rfl).text
  rwa [format_arena, format_arena] at same

end Node

/-- A message can be made without options, if they are applied to the nodes first. -/
theorem message_applied (options : Options) (nodes : List Node) :
    message options nodes = message .plain (Node.appliedAll options nodes) := by
  have same : Node.formatAll options nodes =
      Node.formatAll .plain (Node.appliedAll options nodes) := by
    induction nodes with
    | nil => rfl
    | cons node rest induction =>
        rw [Node.appliedAll, Node.formatAll, Node.formatAll, induction, Node.format_applied]
  rw [message, message, Node.flatMap_walk, Node.flatMap_walk, same]

/-! ## The case of names -/

namespace Arena

variable {Left Right : Type}

/-- The two nodes, and all nodes below them, are the same but for the case of the letters in
names. -/
inductive SameButCase (left : Arena Left) (right : Arena Right) : Left → Right → Prop
  | absent {leftHandle : Left} {rightHandle : Right} (leftFound : left.cell? leftHandle = none)
    (rightFound : right.cell? rightHandle = none) : SameButCase left right leftHandle rightHandle
  | comment {leftHandle : Left} {rightHandle : Right}
    (leftFound : left.cell? leftHandle = some .comment)
    (rightFound : right.cell? rightHandle = some .comment) :
    SameButCase left right leftHandle rightHandle
  | text {leftHandle : Left} {rightHandle : Right} {content : List Char}
    (leftFound : left.cell? leftHandle = some (.text content))
    (rightFound : right.cell? rightHandle = some (.text content)) :
    SameButCase left right leftHandle rightHandle
  | element {leftHandle : Left} {rightHandle : Right} {leftName rightName : String}
    {leftChildren : List Left} {rightChildren : List Right}
    (leftFound : left.cell? leftHandle = some (.element leftName leftChildren))
    (rightFound : right.cell? rightHandle = some (.element rightName rightChildren))
    (sameName : lowercaseName leftName = lowercaseName rightName)
    (children : List.Forall₂ (SameButCase left right) leftChildren rightChildren) :
    SameButCase left right leftHandle rightHandle

theorem SameButCase.format_eq {options : Options} (anyCase : options.lowercaseTags = true)
    {left : Arena Left} {right : Arena Right} {leftHandle : Left} {rightHandle : Right}
    (same : SameButCase left right leftHandle rightHandle) :
    left.format options leftHandle = right.format options rightHandle := by
  refine (sameText_of_alike (SameButCase left right) ?_ same).text
  intro leftHandle rightHandle same
  cases same with
  | absent leftFound rightFound =>
      rw [leftFound, rightFound]
      exact .silent rfl rfl
  | comment leftFound rightFound =>
      rw [leftFound, rightFound]
      exact .silent rfl rfl
  | text leftFound rightFound =>
      rw [leftFound, rightFound]
      exact .text rfl
  | element leftFound rightFound sameName children =>
      rw [leftFound, rightFound]
      refine .children ?_ children
      rw [elementName, if_pos anyCase, elementName, if_pos anyCase, sameName]

end Arena

/-- The walk gives with options what it gives without them once the options are applied to the tree.
So where names are lowercased, trees that are the same but for the case of names give the same
text. -/
theorem options_applied_to_tree (options : Options) {Handle : Type} (arena : Arena Handle)
    (root : Handle) :
    Walk.run arena options (Walk.start arena options root) =
        Walk.run (arena.applied options) .plain (Walk.start (arena.applied options) .plain root) ∧
      (options.lowercaseTags = true → ∀ (Other : Type) (other : Arena Other) (otherRoot : Other),
        Arena.SameButCase arena other root otherRoot →
          Walk.run arena options (Walk.start arena options root) =
            Walk.run other options (Walk.start other options otherRoot)) := by
  constructor
  · rw [Walk.run_start, Walk.run_start, Arena.format_applied]
  · intro anyCase Other other otherRoot same
    rw [Walk.run_start, Walk.run_start, same.format_eq anyCase]

theorem options_applied_to_tree_mixed :
    Walk.format { lowercaseTags := true } (.element "UL" [.text "x".toList,
        .element "Li" [.text "a &amp; b".toList], .comment]) = "- a & b".toList ∧
      Walk.run (Node.arena.applied { lowercaseTags := true }) .plain
        (Walk.start (Node.arena.applied { lowercaseTags := true }) .plain
          (.element "UL" [.text "x".toList, .element "Li" [.text "a &amp; b".toList],
            .comment])) = "- a & b".toList ∧
      Walk.format { lowercaseTags := true } (.element "ul" [.text "x".toList,
        .element "li" [.text "a &amp; b".toList], .comment]) = "- a & b".toList := by
  have shown : Walk.format { lowercaseTags := true } (.element "UL" [.text "x".toList,
      .element "Li" [.text "a &amp; b".toList], .comment]) = "- a & b".toList := by
    decide +kernel
  have same : Arena.SameButCase Node.arena Node.arena
      (.element "UL" [.text "x".toList, .element "Li" [.text "a &amp; b".toList], .comment])
      (.element "ul" [.text "x".toList, .element "li" [.text "a &amp; b".toList], .comment]) := by
    refine .element rfl rfl (by decide +kernel) (.cons (.text rfl rfl) ?_)
    refine .cons (.element rfl rfl (by decide +kernel) ?_) (.cons (.comment rfl rfl) .nil)
    exact .cons (.text rfl rfl) .nil
  rcases options_applied_to_tree { lowercaseTags := true } Node.arena _ with ⟨applied, anyCase⟩
  exact ⟨shown, applied.symm.trans shown, (anyCase rfl Node Node.arena _ same).symm.trans shown⟩

end ChatMarkup
