import Mathlib.Logic.Relation
import ChatMarkup.Proofs.AlikeTrees

/-!
What a page says and no message shows: attributes, the bodies of comments, what is inside of dropped
elements and of elements with a fixed text, and what stands between the items of a list. However
much of it is changed, at whatever depth, the text stays the same.
-/

namespace ChatMarkup

/-! ## Nodes with all that is said of them -/

/-- A node with its attributes, or with the body of its comment. A handle may also lead to no
node. -/
inductive DetailedNode where
  | element (name : String) (attributes : List (String × Option (List Char)))
    (children : List DetailedNode)
  | text (content : List Char)
  | comment (body : List Char)
  | missing

namespace DetailedNode

def cell? : DetailedNode → Option (Cell DetailedNode)
  | .element name _ children => some (.element name children)
  | .text content => some (.text content)
  | .comment _ => some .comment
  | .missing => none

mutual

def descendants : DetailedNode → Nat
  | .element _ _ children => countAll children
  | _ => 0

def countAll : List DetailedNode → Nat
  | [] => 0
  | node :: rest => node.descendants + 1 + countAll rest

end

theorem countAll_eq_weigh (nodes : List DetailedNode) :
    countAll nodes = weigh (fun node => node.descendants + 1) nodes := by
  induction nodes with
  | nil => rfl
  | cons node rest induction => rw [countAll, induction, weigh_cons]

def arena : Arena DetailedNode where
  cell? := cell?
  descendants := descendants
  descendants_le {node name children} found := by
    cases node with
    | element owner attributes inner =>
        rcases Cell.element.inj (Option.some.inj found) with ⟨-, rfl⟩
        exact Nat.le_of_eq (countAll_eq_weigh inner).symm
    | text content => cases found
    | comment body => cases found
    | missing => cases found

/-! ## Nodes without details -/

mutual

/-- The node without its details. A comment stands for no node. -/
def plain : DetailedNode → Node
  | .element name _ children => .element name (plainAll children)
  | .text content => .text content
  | .comment _ => .comment
  | .missing => .comment

def plainAll : List DetailedNode → List Node
  | [] => []
  | node :: rest => node.plain :: plainAll rest

end

theorem forall₂_plainAll (nodes : List DetailedNode) :
    List.Forall₂ (fun node plain => plain = node.plain) nodes (plainAll nodes) := by
  induction nodes with
  | nil => exact .nil
  | cons node rest induction => exact .cons rfl induction

/-- The tree that a page is read to has all that a message needs. -/
theorem format_plain (options : Options) (node : DetailedNode) :
    node.plain.format options = arena.format options node := by
  have agree : ∀ left right, right = left.plain → Arena.AlikeCells arena options Node.arena options
      (fun left right => right = left.plain) (arena.cell? left) (Node.arena.cell? right) := by
    rintro left _ rfl
    cases left with
    | element name attributes children => exact .children rfl (forall₂_plainAll children)
    | text content => exact .text rfl
    | comment body => exact .silent rfl rfl
    | missing => exact .silent rfl rfl
  have same : arena.format options node = Node.arena.format options node.plain :=
    (Arena.sameText_of_alike _ agree rfl).text
  rw [same, Node.format_arena]

end DetailedNode

/-! ## Changes that do not show -/

open DetailedNode Relation

/-- One change in what no message shows, somewhere in a tree. -/
inductive HiddenChange (options : Options) : DetailedNode → DetailedNode → Prop
  | attributes (name : String) (left right : List (String × Option (List Char)))
    (children : List DetailedNode) :
    HiddenChange options (.element name left children) (.element name right children)
  | commentBody (left right : List Char) : HiddenChange options (.comment left) (.comment right)
  /-- Other children, or none, where the rule ignores them. -/
  | ignored {name : String} (ignores : (elementRule options name).ignoresChildren = true)
    (attributes : List (String × Option (List Char))) (left right : List DetailedNode) :
    HiddenChange options (.element name attributes left) (.element name attributes right)
  /-- Other nodes, more or fewer of them, at a place between the items of a list. -/
  | strays {name : String} {kind : ListKind} (isList : elementRule options name = .list kind)
    (attributes : List (String × Option (List Char))) (before left right after : List DetailedNode)
    (leftStray : ∀ node ∈ left, arena.isItem options node = false)
    (rightStray : ∀ node ∈ right, arena.isItem options node = false) :
    HiddenChange options (.element name attributes (before ++ left ++ after))
      (.element name attributes (before ++ right ++ after))
  | inside (name : String) (attributes : List (String × Option (List Char)))
    (before after : List DetailedNode) {left right : DetailedNode}
    (change : HiddenChange options left right) :
    HiddenChange options (.element name attributes (before ++ left :: after))
      (.element name attributes (before ++ right :: after))

namespace HiddenChange

variable {options : Options}

theorem filter_strays {left : List DetailedNode} (before after : List DetailedNode)
    (stray : ∀ node ∈ left, arena.isItem options node = false) :
    (before ++ left ++ after).filter (arena.isItem options) =
      (before ++ after).filter (arena.isItem options) := by
  have none : left.filter (arena.isItem options) = [] := by
    rw [List.filter_eq_nil_iff]
    exact fun node member => Bool.eq_false_iff.mp (stray node member)
  rw [List.filter_append, List.filter_append, none, List.append_nil, ← List.filter_append]

/-- The changed node agrees with the one before the change, and so do all their children that are
looked at: they are the same, or one of them is changed. -/
theorem alikeCells {left right : DetailedNode} (change : HiddenChange options left right) :
    Arena.AlikeCells arena options arena options (ReflGen (HiddenChange options))
      (arena.cell? left) (arena.cell? right) := by
  have same (nodes : List DetailedNode) :
      List.Forall₂ (ReflGen (HiddenChange options)) nodes nodes :=
    List.forall₂_same.mpr fun _ _ => .refl
  cases change with
  | attributes name left right children => exact .children rfl (same children)
  | commentBody left right => exact .silent rfl rfl
  | ignored ignores attributes left right => exact .ignored rfl ignores
  | strays isList attributes before left right after leftStray rightStray =>
      refine .items rfl isList ?_
      rw [filter_strays before after leftStray, filter_strays before after rightStray]
      exact same _
  | inside name attributes before after change =>
      exact .children rfl (List.rel_append (same before) (.cons (.single change) (same after)))

theorem format_eq {left right : DetailedNode} (change : HiddenChange options left right) :
    arena.format options left = arena.format options right := by
  refine (Arena.sameText_of_alike (ReflGen (HiddenChange options)) ?_ (.single change)).text
  intro left right changed
  cases changed with
  | refl => exact .refl arena options (fun _ => .refl) _
  | single change => exact change.alikeCells

end HiddenChange

/-- Trees that differ only in what no message shows, by any number of changes, have the same
text. -/
theorem hidden_content_unseen (options : Options) (left right : DetailedNode)
    (changes : ReflTransGen (HiddenChange options) left right) :
    Walk.run arena options (Walk.start arena options left) =
      Walk.run arena options (Walk.start arena options right) := by
  rw [Walk.run_start, Walk.run_start]
  induction changes with
  | refl => rfl
  | tail _ change induction => exact induction.trans change.format_eq

theorem hidden_content_unseen_list :
    Walk.run arena {} (Walk.start arena {} (.element "ol" [("class", none)] [.text ['x'],
        .element "li" [] [.text ['a'], .comment ['y'], .element "br" [] [.text ['z']]]])) =
          "1. a".toList ∧
      Walk.run arena {} (Walk.start arena {} (.element "ol" [] [
        .element "li" [] [.text ['a'], .comment [], .element "br" [] []], .missing])) =
          "1. a".toList := by
  have isList : elementRule {} "ol" = .list .ordered := by decide +kernel
  have changes : ReflTransGen (HiddenChange {}) (.element "ol" [("class", none)] [.text ['x'],
        .element "li" [] [.text ['a'], .comment ['y'], .element "br" [] [.text ['z']]]])
      (.element "ol" [] [.element "li" [] [.text ['a'], .comment [], .element "br" [] []],
        .missing]) := by
    refine .head (.attributes "ol" _ [] _) ?_
    refine .head (.strays isList [] [] [.text ['x']] [] [_] (List.forall_mem_singleton.mpr rfl)
      (List.forall_mem_nil _)) ?_
    refine .head (.inside "ol" [] [] [] (.inside "li" [] [_] [_] (.commentBody _ []))) ?_
    refine .head (.inside "ol" [] [] []
      (.inside "li" [] [_, _] [] (.ignored (by decide +kernel) [] _ []))) ?_
    exact .single (.strays isList [] [_] [] [.missing] [] (List.forall_mem_nil _)
      (List.forall_mem_singleton.mpr rfl))
  have shown : Walk.run arena {} (Walk.start arena {} (.element "ol" [] [
      .element "li" [] [.text ['a'], .comment [], .element "br" [] []], .missing])) =
        "1. a".toList := by
    decide +kernel
  exact ⟨(hidden_content_unseen {} _ _ changes).trans shown, shown⟩

end ChatMarkup
