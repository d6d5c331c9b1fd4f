import ChatMarkup.Proofs.AlikeTrees

/-!
Rows of a table. A cell that has a child puts its text and a tab into the row, however empty the
text is. A cell without any child puts nothing there, and the cells behind it move to columns in
front of theirs.
-/

namespace ChatMarkup

open Text

namespace Arena

variable {Handle : Type} (arena : Arena Handle) (options : Options)

def isCalled (name : String) (handle : Handle) : Bool :=
  match arena.cell? handle with
  | some (.element written _) => elementName options written == name
  | _ => false

def children (handle : Handle) : List Handle :=
  match arena.cell? handle with
  | some (.element _ children) => children
  | _ => []

def content (handle : Handle) : List Char :=
  (arena.children handle).flatMap (arena.format options)

/-! ## Cells -/

/-- What stands in the column of a cell. The text of a header cell is put between asterisks, if
there is any. -/
def field (cell : Handle) : List Char :=
  if arena.isCalled options "th" cell = true ∧ arena.content options cell ≠ [] then
    '*' :: arena.content options cell ++ ['*']
  else arena.content options cell

structure IsTableCell (handle : Handle) : Prop where
  called : arena.isCalled options "td" handle = true ∨ arena.isCalled options "th" handle = true
  noTab : '\t' ∉ arena.content options handle
  noBreak : '\n' ∉ arena.content options handle

def filledCells (cells : List Handle) : List Handle :=
  cells.filter fun cell => !(arena.children cell).isEmpty

variable {arena options} {cell row : Handle} {cells : List Handle}

theorem exists_of_isCalled {name : String} {handle : Handle}
    (called : arena.isCalled options name handle = true) :
    ∃ written, arena.cell? handle = some (.element written (arena.children handle)) ∧
      elementName options written = name := by
  rw [isCalled] at called
  rw [children]
  generalize arena.cell? handle = found at called
  rcases found with _ | ⟨written, children⟩ | content | _
  · cases called
  · exact ⟨written, rfl, beq_iff_eq.mp called⟩
  · cases called
  · cases called

theorem notMem_field {char : Char} (notMem : char ∉ arena.content options cell)
    (noMarker : char ≠ '*') : char ∉ arena.field options cell := by
  rw [field]
  split
  · simp [noMarker, notMem]
  · exact notMem

theorem field_of_data (called : arena.isCalled options "td" cell = true) :
    arena.field options cell = arena.content options cell := by
  rcases exists_of_isCalled called with ⟨written, found, named⟩
  have noHeader : arena.isCalled options "th" cell = false := by
    rw [isCalled, found]
    exact (congrArg (· == "th") named).trans (by decide)
  rw [field, noHeader]
  simp

theorem field_of_header (called : arena.isCalled options "th" cell = true) :
    arena.field options cell = Rule.surrounded Rule.bold (arena.content options cell) := by
  rw [field, called, Rule.surrounded]
  cases arena.content options cell with
  | nil => rfl
  | cons char rest => rfl

/-- Only a cell with a child gets a column. -/
theorem format_cell (isCell : arena.IsTableCell options cell) :
    arena.format options cell =
      if (arena.children cell).isEmpty then [] else arena.field options cell ++ ['\t'] := by
  rcases isCell.called with called | called
  · rcases exists_of_isCalled called with ⟨written, found, named⟩
    have rule : elementRule options written = .cell none := by
      rw [elementRule, named]
      decide
    rw [format_of_element found, rule, field_of_data called]
    rfl
  · rcases exists_of_isCalled called with ⟨written, found, named⟩
    have rule : elementRule options written = .cell (some Rule.bold) := by
      rw [elementRule, named]
      decide
    rw [format_of_element found, rule, field_of_header called]
    rfl

/-! ## Rows -/

theorem flatMap_format_cells (areCells : ∀ cell ∈ cells, arena.IsTableCell options cell) :
    cells.flatMap (arena.format options) =
      ((arena.filledCells cells).map (arena.field options)).flatMap (· ++ ['\t']) := by
  induction cells with
  | nil => rfl
  | cons cell rest induction =>
      rw [List.forall_mem_cons] at areCells
      rw [List.flatMap_cons, format_cell areCells.1, induction areCells.2, filledCells, filledCells,
        List.filter_cons]
      cases (arena.children cell).isEmpty with
      | true => rfl
      | false => rfl

theorem format_row (isRow : arena.isCalled options "tr" row = true)
    (nonempty : arena.children row ≠ [])
    (areCells : ∀ cell ∈ arena.children row, arena.IsTableCell options cell) :
    arena.format options row =
      ((arena.filledCells (arena.children row)).map (arena.field options)).flatMap (· ++ ['\t']) ++
        ['\n'] := by
  rcases exists_of_isCalled isRow with ⟨written, found, named⟩
  have rule : elementRule options written = .row := by
    rw [elementRule, named]
    decide
  rw [format_of_element found, rule, if_neg (by simpa using nonempty),
    ← flatMap_format_cells areCells]
  rfl

/-- No field has a character that the cells' texts do not have, apart from the asterisk. -/
theorem notMem_fields {char : Char} (noMarker : char ≠ '*')
    (notMem : ∀ cell ∈ cells, char ∉ arena.content options cell) :
    ∀ field ∈ (arena.filledCells cells).map (arena.field options), char ∉ field := by
  rw [List.forall_mem_map]
  intro cell member
  exact notMem_field (notMem cell (List.mem_of_mem_filter member)) noMarker

end Arena

/-- Between the tabs of a row stand the texts of its cells that have a child, in their order, and
behind the last tab the only line break of the row. So there are as many tabs as cells exactly if no
cell is without a child. -/
theorem row_fields (options : Options) {Handle : Type} (arena : Arena Handle) (row : Handle)
    (isRow : arena.isCalled options "tr" row = true) (nonempty : arena.children row ≠ [])
    (areCells : ∀ cell ∈ arena.children row, arena.IsTableCell options cell) :
    splitAtChar '\t' (Walk.run arena options (Walk.start arena options row)) =
        (arena.filledCells (arena.children row)).map (arena.field options) ++ [['\n']] ∧
      ((Walk.run arena options (Walk.start arena options row)).count '\t' =
          (arena.children row).length ↔
        ∀ cell ∈ arena.children row, arena.children cell ≠ []) ∧
      ∃ front, Walk.run arena options (Walk.start arena options row) = front ++ ['\n'] ∧
        '\n' ∉ front := by
  have noTabs := Arena.notMem_fields (by decide : '\t' ≠ '*') fun cell member =>
    (areCells cell member).noTab
  have noBreaks := Arena.notMem_fields (by decide : '\n' ≠ '*') fun cell member =>
    (areCells cell member).noBreak
  rw [Walk.run_start, Arena.format_row isRow nonempty areCells]
  have fields := splitAtChar_flatMap_append noTabs (by decide : '\t' ∉ ['\n'])
  refine ⟨fields, ?_, _, rfl, ?_⟩
  · have tabs := length_splitAtChar '\t'
      (((arena.filledCells (arena.children row)).map (arena.field options)).flatMap
        (· ++ ['\t']) ++ ['\n'])
    rw [fields, List.length_append, List.length_map, List.length_singleton,
      Nat.add_right_cancel_iff] at tabs
    rw [← tabs, Arena.filledCells, List.length_filter_eq_length_iff]
    simp
  · rw [List.mem_flatMap]
    rintro ⟨field, member, inField⟩
    rcases List.mem_append.mp inField with inText | inTab
    · exact noBreaks field member inText
    · exact absurd inTab (by decide)

theorem row_fields_mixed :
    splitAtChar '\t' (Walk.format { lowercaseTags := true } (.element "TR" [
        .element "th" [.text ['A']], .element "td" [], .element "TD" [.comment],
        .element "th" [.element "b" []]])) = ["*A*".toList, [], [], ['\n']] ∧
      (Walk.format { lowercaseTags := true } (.element "TR" [
        .element "th" [.text ['A']], .element "td" [], .element "TD" [.comment],
        .element "th" [.element "b" []]])).count '\t' ≠ 4 := by
  have areCells : ∀ cell ∈ [Node.element "th" [.text ['A']], .element "td" [],
      .element "TD" [.comment], .element "th" [.element "b" []]],
      Node.arena.IsTableCell { lowercaseTags := true } cell := by
    simp only [List.forall_mem_cons]
    refine ⟨⟨.inr ?_, ?_, ?_⟩, ⟨.inl ?_, ?_, ?_⟩, ⟨.inl ?_, ?_, ?_⟩, ⟨.inr ?_, ?_, ?_⟩,
      List.forall_mem_nil _⟩ <;> decide +kernel
  rcases row_fields { lowercaseTags := true } Node.arena (.element "TR" _) (by decide +kernel)
    (List.cons_ne_nil _ _) areCells with ⟨fields, tabs, -⟩
  refine ⟨fields.trans (by decide +kernel), fun four => ?_⟩
  have filled := tabs.mp four (.element "td" []) (by simp [Arena.children, Node.arena, Node.cell])
  exact absurd rfl filled

/-- A row with two cells has one tab if the first cell has no child. -/
theorem column_lost_at_childless_cell :
    ¬∀ cells : List Node, cells ≠ [] → (∀ cell ∈ cells, Node.arena.IsTableCell {} cell) →
      (Walk.format {} (.element "tr" cells)).count '\t' = cells.length := by
  intro always
  have areCells : ∀ cell ∈ [Node.element "td" [], .element "td" [.text ['b']]],
      Node.arena.IsTableCell {} cell := by
    simp only [List.forall_mem_cons]
    refine ⟨⟨.inl ?_, ?_, ?_⟩, ⟨.inl ?_, ?_, ?_⟩, List.forall_mem_nil _⟩ <;> decide +kernel
  have one : (Walk.format {} (.element "tr" [.element "td" [],
      .element "td" [.text ['b']]])).count '\t' = 1 := by
    decide +kernel
  exact absurd (one.symm.trans (always _ (List.cons_ne_nil _ _) areCells)) (by decide)

end ChatMarkup
