import ChatMarkup.Proofs.RoundTrip

/-!
Items without end tags, as the forgiving reader takes them: every item is read into the one before
it, however many there are.
-/

namespace ChatMarkup

open Markup

/-! ## Items -/

def textNodes (text : List Char) : List Node := if text.isEmpty then [] else [.text text]

def item (name : String) (text : List Char) : Node := .element name (textNodes text)

/-- The source of items whose end tags are left out. -/
def openItems (name : String) (texts : List (List Char)) : List Char :=
  texts.flatMap fun text => Node.startTag name ++ text

theorem openItems_cons (name : String) (text : List Char) (rest : List (List Char)) :
    openItems name (text :: rest) = Node.startTag name ++ (text ++ openItems name rest) := by
  rw [openItems, List.flatMap_cons, List.append_assoc]
  rfl

def nested (name : String) : List (List Char) → List Node
  | [] => []
  | text :: rest => [.element name (textNodes text ++ nested name rest)]

theorem plainPage_openItems {name : String} (plain : PlainName name.toList)
    {texts : List (List Char)} (free : ∀ text ∈ texts, '<' ∉ text) :
    PlainPage (openItems name texts) := by
  induction texts with
  | nil => exact .nil
  | cons text rest induction =>
      rw [List.forall_mem_cons] at free
      rw [openItems_cons]
      exact (Node.plainPage_startTag plain).append
        ((PlainPage.text free.1).append (induction free.2))

/-! ## Two items are misnested -/

theorem areMisnested_nested {name : String}
    (closes : closesParent (lowercaseName name) (lowercaseName name) = true)
    {texts : List (List Char)} (several : 1 < texts.length) :
    Node.areMisnested (nested name texts) = true := by
  match texts with
  | [] => cases several
  | [_] => exact absurd several (Nat.lt_irrefl 1)
  | first :: second :: rest =>
      have misnested :
          misnestedIn name (.element name (textNodes second ++ nested name rest)) = true := closes
      simp [nested, Node.areMisnested, Node.isMisnested, misnested]

theorem nested_singleton (name : String) (text : List Char) :
    nested name [text] = [text].map (item name) := by
  rw [nested, nested, List.append_nil]
  rfl

/-! ## Reading items -/

namespace Markup.Reader

theorem nodes_addAll_push (name : String) (inner : List Node) (reader : Reader) :
    (addAll inner (reader.push name)).nodes = (reader.add (.element name inner)).nodes := by
  rw [push, addAll_open]
  rcases reader with ⟨phase, stack, top⟩
  cases stack with
  | nil => simp [nodes, add, OpenElement.toNode]
  | cons element outer => simp [nodes, add, OpenElement.toNode]

/-- A text of any length that begins between two nodes. -/
theorem foldl_step_textNodes {text : List Char} (free : '<' ∉ text) {reader : Reader}
    (between : reader.phase = .between) :
    (text.foldl step reader).AtBreak ∧
      (text.foldl step reader).settle = addAll (textNodes text) reader := by
  cases text with
  | nil => exact ⟨.inl between, settle_eq_self between⟩
  | cons char rest =>
      rw [foldl_step_content (List.cons_ne_nil char rest) free between]
      exact ⟨.inr ⟨_, rfl⟩, settle_text between⟩

def Inside (name : String) (reader : Reader) : Prop := reader.stack.head?.any (·.name = name)

theorem closeNamed_of_inside {reader : Reader} {name other : String}
    (inside : reader.Inside name) (different : name ≠ other) :
    reader.closeNamed other = reader := by
  rw [closeNamed]
  split
  · rfl
  · rename_i element outer stack
    rw [Inside, stack] at inside
    have named : element.name = name := by simpa using inside
    exact if_neg (named ▸ different)

theorem foldl_step_openItems {name : String} (plain : PlainName name.toList)
    (holds : contentless.contains name = false) {texts : List (List Char)}
    (free : ∀ text ∈ texts, '<' ∉ text) {reader : Reader} (atBreak : reader.AtBreak) :
    ((openItems name texts).foldl step reader).AtBreak ∧
      ((openItems name texts).foldl step reader).settle.nodes =
        (addAll (nested name texts) reader.settle).nodes ∧
      (reader.settle.Inside name ∨ texts ≠ [] →
        ((openItems name texts).foldl step reader).settle.Inside name) := by
  induction texts generalizing reader with
  | nil => exact ⟨atBreak, rfl, fun inside => inside.resolve_right (absurd rfl)⟩
  | cons text rest induction =>
      rw [List.forall_mem_cons] at free
      have opened : reader.settle.openElement name false = reader.settle.push name := by
        rw [openElement, holds]
        rfl
      have between : (reader.settle.push name).phase = .between := atBreak.phase_settle
      rcases foldl_step_textNodes free.1 between with ⟨textBreak, settled⟩
      rcases induction free.2 textBreak with ⟨lastBreak, nodes, inside⟩
      have start : (openItems name (text :: rest)).foldl step reader =
          (openItems name rest).foldl step (text.foldl step (reader.settle.push name)) := by
        rw [openItems_cons, List.foldl_append, List.foldl_append,
          foldl_step_startTag plain atBreak, opened]
      rw [start]
      refine ⟨lastBreak, ?_, fun _ => inside (.inl ?_)⟩
      · rw [nodes, settled, ← addAll_append, nodes_addAll_push]
        rfl
      · rw [settled, push, addAll_open, Inside]
        simp

end Markup.Reader

theorem Markup.read_openItems {name : String} (plain : PlainName name.toList)
    (holds : contentless.contains name = false) {texts : List (List Char)}
    (free : ∀ text ∈ texts, '<' ∉ text) : read (openItems name texts) = nested name texts := by
  rcases @Reader.foldl_step_openItems name plain holds texts free .start (.inl rfl) with
    ⟨atBreak, nodes, -⟩
  rw [read, Reader.nodes_finish atBreak, nodes, Reader.settle_eq_self rfl,
    Reader.addAll_top (nested name texts) rfl, Reader.nodes]
  simp [Reader.start]

def openList (outer name : String) (texts : List (List Char)) : List Char :=
  Node.startTag outer ++ (openItems name texts ++ Node.endTag outer)

theorem plainPage_openList {outer name : String} (plainOuter : PlainName outer.toList)
    (plain : PlainName name.toList) {texts : List (List Char)}
    (free : ∀ text ∈ texts, '<' ∉ text) : PlainPage (openList outer name texts) :=
  (Node.plainPage_startTag plainOuter).append
    ((plainPage_openItems plain free).append (Node.plainPage_endTag plainOuter))

/-- The end tag of the list meets an open item, and is ignored. -/
theorem Markup.read_openList {outer name : String} (plainOuter : PlainName outer.toList)
    (outerHolds : contentless.contains outer = false) (plain : PlainName name.toList)
    (holds : contentless.contains name = false) (different : name ≠ outer)
    {texts : List (List Char)} (free : ∀ text ∈ texts, '<' ∉ text) (some : texts ≠ []) :
    read (openList outer name texts) = [.element outer (nested name texts)] := by
  have opened : (Node.startTag outer).foldl Reader.step .start = Reader.start.push outer := by
    rw [Reader.foldl_step_startTag plainOuter (.inl rfl), Reader.settle_eq_self rfl,
      Reader.openElement, outerHolds]
    rfl
  have inList : (Reader.start.push outer).AtBreak := .inl rfl
  rcases Reader.foldl_step_openItems plain holds free inList with ⟨atBreak, nodes, inside⟩
  have ignored := Reader.closeNamed_of_inside (inside (.inr some)) different
  have between := atBreak.phase_settle
  rw [read, openList, List.foldl_append, opened, List.foldl_append,
    Reader.foldl_step_endTag (plainOuter.notMem (by decide)) atBreak, ignored,
    Reader.nodes_finish (.inl between), Reader.settle_eq_self between, nodes, Reader.settle_eq_self rfl, Reader.nodes_addAll_push]
  rfl

end ChatMarkup
