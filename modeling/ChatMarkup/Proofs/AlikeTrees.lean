import Mathlib.Data.List.Forall2
import ChatMarkup.Proofs.StackWalk

/-!
Trees that the walk cannot tell apart. A node's text depends on the name under which its rule is
looked up, on the text that is shown, and on those children that the rule takes. Nodes that agree in
these, they and their children, have the same text. They may be reached by different handles, and be
formatted with different options.
-/

namespace ChatMarkup

def Rule.ignoresChildren : Rule → Bool
  | .drop => true
  | .fixed _ => true
  | _ => false

/-- Nothing stands for the node in a message: it is a comment, or there is no node. -/
def Cell.isSilent {Handle : Type} : Option (Cell Handle) → Bool
  | none => true
  | some .comment => true
  | _ => false

namespace Arena

/-! ## Nodes by their kinds -/

section Nodes

variable {Handle : Type} {arena : Arena Handle} {options : Options} {handle : Handle}
  {name : String} {children : List Handle}

theorem format_of_isSilent (silent : Cell.isSilent (arena.cell? handle) = true) :
    arena.format options handle = [] := by
  rw [format_eq]
  generalize arena.cell? handle = cell at silent
  rcases cell with _ | ⟨name, children⟩ | content | _
  · rfl
  · cases silent
  · cases silent
  · rfl

theorem isItem_of_isSilent (silent : Cell.isSilent (arena.cell? handle) = true) :
    arena.isItem options handle = false := by
  rw [isItem]
  generalize arena.cell? handle = cell at silent
  rcases cell with _ | ⟨name, children⟩ | content | _
  · rfl
  · cases silent
  · rfl
  · rfl

theorem format_of_element (found : arena.cell? handle = some (.element name children)) :
    arena.format options handle =
      if children.isEmpty then (elementRule options name).applyVoid
      else
        (elementRule options name).applyContent
          ((children.filter (arena.isItem options)).map (arena.format options))
          (children.flatMap (arena.format options)) := by
  rw [format_eq, found]

/-- No children and children that are ignored make no difference. -/
theorem format_of_ignoresChildren (found : arena.cell? handle = some (.element name children))
    (ignores : (elementRule options name).ignoresChildren = true) :
    arena.format options handle = (elementRule options name).applyVoid := by
  rw [format_of_element found]
  cases rule : elementRule options name with
  | drop => exact ite_self _
  | fixed literal => exact ite_self _
  | _ => rw [rule] at ignores; cases ignores

/-- A list without any child is a list without items. -/
theorem format_of_list {kind : ListKind}
    (found : arena.cell? handle = some (.element name children))
    (isList : elementRule options name = .list kind) :
    arena.format options handle =
      Rule.applyList kind
        ((children.filter (arena.isItem options)).map (arena.format options)) := by
  rw [format_of_element found, isList]
  split
  · rename_i empty
    rw [List.isEmpty_iff.mp empty]
    rfl
  · rfl

end Nodes

/-! ## Nodes that agree -/

section Agreement

variable {Left Right : Type} (left : Arena Left) (leftOptions : Options) (right : Arena Right)
  (rightOptions : Options)

/-- The two nodes agree in all that is looked at, where `alike` compares their children. -/
inductive AlikeCells (alike : Left → Right → Prop) :
    Option (Cell Left) → Option (Cell Right) → Prop
  | silent {leftCell : Option (Cell Left)} {rightCell : Option (Cell Right)}
    (leftSilent : Cell.isSilent leftCell = true) (rightSilent : Cell.isSilent rightCell = true) :
    AlikeCells alike leftCell rightCell
  | text {leftContent rightContent : List Char}
    (sameText : shownText leftOptions leftContent = shownText rightOptions rightContent) :
    AlikeCells alike (some (.text leftContent)) (some (.text rightContent))
  /-- The rule looks at no child. -/
  | ignored {leftName rightName : String} {leftChildren : List Left} {rightChildren : List Right}
    (sameName : elementName leftOptions leftName = elementName rightOptions rightName)
    (ignores : (elementRule leftOptions leftName).ignoresChildren = true) :
    AlikeCells alike (some (.element leftName leftChildren))
      (some (.element rightName rightChildren))
  /-- The rule looks at the items only. -/
  | items {leftName rightName : String} {leftChildren : List Left} {rightChildren : List Right}
    {kind : ListKind}
    (sameName : elementName leftOptions leftName = elementName rightOptions rightName)
    (isList : elementRule leftOptions leftName = .list kind)
    (items : List.Forall₂ alike (leftChildren.filter (left.isItem leftOptions))
      (rightChildren.filter (right.isItem rightOptions))) :
    AlikeCells alike (some (.element leftName leftChildren))
      (some (.element rightName rightChildren))
  | children {leftName rightName : String} {leftChildren : List Left} {rightChildren : List Right}
    (sameName : elementName leftOptions leftName = elementName rightOptions rightName)
    (children : List.Forall₂ alike leftChildren rightChildren) :
    AlikeCells alike (some (.element leftName leftChildren))
      (some (.element rightName rightChildren))

/-- An element around the two nodes cannot tell them apart. -/
structure SameText (leftHandle : Left) (rightHandle : Right) : Prop where
  isItem : left.isItem leftOptions leftHandle = right.isItem rightOptions rightHandle
  text : left.format leftOptions leftHandle = right.format rightOptions rightHandle

variable {left leftOptions right rightOptions} {alike other : Left → Right → Prop}
  {leftCell : Option (Cell Left)} {rightCell : Option (Cell Right)} {leftHandle : Left}
  {rightHandle : Right}

theorem elementRule_eq_elementRule {leftName rightName : String}
    (sameName : elementName leftOptions leftName = elementName rightOptions rightName) :
    elementRule leftOptions leftName = elementRule rightOptions rightName := by
  rw [elementRule, sameName, elementRule]

namespace SameText

variable {lefts : List Left} {rights : List Right}

theorem map_format_eq (same : List.Forall₂ (SameText left leftOptions right rightOptions) lefts
      rights) :
    lefts.map (left.format leftOptions) = rights.map (right.format rightOptions) := by
  rw [← List.forall₂_eq_eq_eq, List.forall₂_map_left_iff, List.forall₂_map_right_iff]
  exact same.imp fun _ _ => SameText.text

theorem filter_isItem (same : List.Forall₂ (SameText left leftOptions right rightOptions) lefts
      rights) :
    List.Forall₂ (SameText left leftOptions right rightOptions)
      (lefts.filter (left.isItem leftOptions)) (rights.filter (right.isItem rightOptions)) :=
  List.rel_filter (fun _ _ same => iff_of_eq (congrArg (· = true) same.isItem)) same

end SameText

namespace AlikeCells

/-- A node agrees with itself. -/
theorem refl (arena : Arena Left) (options : Options) {alike : Left → Left → Prop}
    (reflexive : ∀ handle, alike handle handle) (cell : Option (Cell Left)) :
    AlikeCells arena options arena options alike cell cell := by
  rcases cell with _ | ⟨name, children⟩ | content | _
  · exact .silent rfl rfl
  · exact .children rfl (List.forall₂_same.mpr fun child _ => reflexive child)
  · exact .text rfl
  · exact .silent rfl rfl

/-- Another relation may compare the children, if it holds of all that are compared. -/
theorem imp (agree : AlikeCells left leftOptions right rightOptions alike leftCell rightCell)
    (keeps : ∀ name children, leftCell = some (.element name children) →
      ∀ child ∈ children, ∀ otherChild, alike child otherChild → other child otherChild) :
    AlikeCells left leftOptions right rightOptions other leftCell rightCell := by
  have keepsAll {name : String} {children lefts : List Left} {rights : List Right}
      (found : leftCell = some (.element name children)) (subset : lefts ⊆ children)
      (compared : List.Forall₂ alike lefts rights) : List.Forall₂ other lefts rights := by
    have both := (List.forall₂_and_left lefts rights).mpr
      ⟨fun child member => keeps name children found child (subset member), compared⟩
    exact both.imp fun _ otherChild holds => holds.1 otherChild holds.2
  cases agree with
  | silent leftSilent rightSilent => exact .silent leftSilent rightSilent
  | text sameText => exact .text sameText
  | ignored sameName ignores => exact .ignored sameName ignores
  | items sameName isList items =>
      exact .items sameName isList (keepsAll rfl List.filter_sublist.subset items)
  | children sameName children =>
      exact .children sameName (keepsAll rfl (List.Subset.refl _) children)

/-- Whether a node is an item is told by its name. -/
theorem isItem_eq (agree : AlikeCells left leftOptions right rightOptions alike
      (left.cell? leftHandle) (right.cell? rightHandle)) :
    left.isItem leftOptions leftHandle = right.isItem rightOptions rightHandle := by
  generalize leftFound : left.cell? leftHandle = leftCell at agree
  generalize rightFound : right.cell? rightHandle = rightCell at agree
  cases agree with
  | silent leftSilent rightSilent =>
      rw [isItem_of_isSilent (leftFound ▸ leftSilent),
        isItem_of_isSilent (rightFound ▸ rightSilent)]
  | text sameText => rw [isItem, leftFound, isItem, rightFound]
  | ignored sameName ignores => simp only [isItem, leftFound, rightFound, sameName]
  | items sameName isList items => simp only [isItem, leftFound, rightFound, sameName]
  | children sameName children => simp only [isItem, leftFound, rightFound, sameName]

theorem format_eq (agree : AlikeCells left leftOptions right rightOptions
      (SameText left leftOptions right rightOptions) (left.cell? leftHandle)
      (right.cell? rightHandle)) :
    left.format leftOptions leftHandle = right.format rightOptions rightHandle := by
  generalize leftFound : left.cell? leftHandle = leftCell at agree
  generalize rightFound : right.cell? rightHandle = rightCell at agree
  cases agree with
  | silent leftSilent rightSilent =>
      rw [format_of_isSilent (leftFound ▸ leftSilent),
        format_of_isSilent (rightFound ▸ rightSilent)]
  | text sameText =>
      rw [Arena.format_eq, leftFound, Arena.format_eq, rightFound]
      exact sameText
  | ignored sameName ignores =>
      have sameRule := elementRule_eq_elementRule sameName
      rw [format_of_ignoresChildren leftFound ignores, sameRule,
        format_of_ignoresChildren rightFound (sameRule ▸ ignores)]
  | items sameName isList items =>
      have sameRule := elementRule_eq_elementRule sameName
      rw [format_of_list leftFound isList, format_of_list rightFound (sameRule ▸ isList),
        SameText.map_format_eq items]
  | children sameName children =>
      rw [format_of_element leftFound, format_of_element rightFound]
      simp only [elementRule_eq_elementRule sameName, List.flatMap_def,
        SameText.map_format_eq (SameText.filter_isItem children), SameText.map_format_eq children]
      cases children <;> rfl

end AlikeCells

/-- Nodes that agree, and so on for all children that are looked at, cannot be told apart. The
recursion follows the tree on the left. -/
theorem sameText_of_alike (alike : Left → Right → Prop)
    (agree : ∀ leftHandle rightHandle, alike leftHandle rightHandle →
      AlikeCells left leftOptions right rightOptions alike (left.cell? leftHandle)
        (right.cell? rightHandle))
    {leftHandle : Left} {rightHandle : Right} (related : alike leftHandle rightHandle) :
    SameText left leftOptions right rightOptions leftHandle rightHandle := by
  have cells : AlikeCells left leftOptions right rightOptions
      (SameText left leftOptions right rightOptions) (left.cell? leftHandle)
      (right.cell? rightHandle) := by
    refine (agree leftHandle rightHandle related).imp ?_
    intro name children found child member otherChild below
    exact sameText_of_alike alike agree below
  exact ⟨cells.isItem_eq, cells.format_eq⟩
termination_by left.descendants leftHandle
decreasing_by exact left.descendants_lt found member

end Agreement

end Arena

end ChatMarkup
