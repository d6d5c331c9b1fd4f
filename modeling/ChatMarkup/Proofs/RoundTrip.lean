import ChatMarkup.Proofs.PlainPage

/-!
Forests that can be written as markup and read back. A well-formed forest has plain names, texts
that could not be taken for anything else, and no element that another one should have ended.
-/

namespace ChatMarkup

open Markup

namespace Node

def isText : Node → Bool
  | .text _ => true
  | _ => false

mutual

def isWellFormed : Node → Bool
  | .element name children =>
    isTagName name.toList && !Source.hiddenNames.contains name.toList &&
      (!contentless.contains name || children.isEmpty) && !children.any (misnestedIn name) &&
      areWellFormed children
  | .text content => !content.isEmpty && !content.contains '<'
  | .comment => false

/-- The trees are well-formed and no two texts stand side by side. -/
def areWellFormed : List Node → Bool
  | [] => true
  | node :: rest =>
    node.isWellFormed && !(node.isText && rest.head?.any isText) && areWellFormed rest

end

def startTag (name : String) : List Char := '<' :: (name.toList ++ ['>'])

def endTag (name : String) : List Char := '<' :: '/' :: (name.toList ++ ['>'])

mutual

def write : Node → List Char
  | .element name children =>
    if contentless.contains name then startTag name
    else startTag name ++ (writeAll children ++ endTag name)
  | .text content => content
  | .comment => []

def writeAll : List Node → List Char
  | [] => []
  | node :: rest => node.write ++ writeAll rest

end

/-! ## What well-formedness gives -/

theorem plainName_of_isWellFormed {name : String} {children : List Node}
    (wellFormed : (element name children).isWellFormed = true) : PlainName name.toList := by
  simp only [isWellFormed, Bool.and_eq_true, Bool.not_eq_true', List.contains_eq_mem,
    decide_eq_false_iff_not] at wellFormed
  exact ⟨wellFormed.1.1.1.1, wellFormed.1.1.1.2⟩

theorem children_of_isWellFormed {name : String} {children : List Node}
    (wellFormed : (element name children).isWellFormed = true) :
    areWellFormed children = true := by
  simp only [isWellFormed, Bool.and_eq_true] at wellFormed
  exact wellFormed.2

theorem not_misnested_of_isWellFormed {name : String} {children : List Node}
    (wellFormed : (element name children).isWellFormed = true) :
    children.any (misnestedIn name) = false := by
  simp only [isWellFormed, Bool.and_eq_true, Bool.not_eq_true'] at wellFormed
  exact wellFormed.1.2

theorem children_of_contentless {name : String} {children : List Node}
    (wellFormed : (element name children).isWellFormed = true)
    (void : contentless.contains name = true) : children = [] := by
  simp only [isWellFormed, void, Bool.and_eq_true, Bool.not_true, Bool.false_or,
    List.isEmpty_iff] at wellFormed
  exact wellFormed.1.1.2

theorem text_of_isWellFormed {content : List Char}
    (wellFormed : (text content).isWellFormed = true) : content ≠ [] ∧ '<' ∉ content := by
  simpa [isWellFormed] using wellFormed

theorem areWellFormed_cons {node : Node} {rest : List Node}
    (wellFormed : areWellFormed (node :: rest) = true) :
    node.isWellFormed = true ∧ areWellFormed rest = true ∧
      (node.isText = true → rest.head?.any isText = false) := by
  simp only [areWellFormed, Bool.and_eq_true, Bool.not_eq_true', Bool.and_eq_false_iff]
    at wellFormed
  rcases wellFormed with ⟨⟨head, apart⟩, tail⟩
  refine ⟨head, tail, ?_⟩
  intro headText
  rw [headText] at apart
  exact apart.resolve_left Bool.noConfusion

/-! ## The page of a forest is plain -/

theorem plainPage_startTag {name : String} (plain : PlainName name.toList) :
    PlainPage (startTag name) :=
  .startTag plain .nil

theorem plainPage_endTag {name : String} (plain : PlainName name.toList) :
    PlainPage (endTag name) :=
  .endTag plain .nil

mutual

theorem plainPage_write {node : Node} (wellFormed : node.isWellFormed = true) :
    PlainPage node.write := by
  cases node with
  | element name children =>
      have plain := plainName_of_isWellFormed wellFormed
      have inner := plainPage_writeAll (children_of_isWellFormed wellFormed)
      rw [write]
      split
      · exact plainPage_startTag plain
      · exact (plainPage_startTag plain).append (inner.append (plainPage_endTag plain))
  | text content => exact PlainPage.text (text_of_isWellFormed wellFormed).2
  | comment => exact .nil

theorem plainPage_writeAll {nodes : List Node} (wellFormed : areWellFormed nodes = true) :
    PlainPage (writeAll nodes) := by
  cases nodes with
  | nil => exact .nil
  | cons node rest =>
      rcases areWellFormed_cons wellFormed with ⟨head, tail, -⟩
      exact (plainPage_write head).append (plainPage_writeAll tail)

end

/-! ## Nothing in a well-formed forest is misnested -/

mutual

def isMisnested : Node → Bool
  | .element name children => children.any (misnestedIn name) || areMisnested children
  | _ => false

def areMisnested : List Node → Bool
  | [] => false
  | node :: rest => node.isMisnested || areMisnested rest

end

theorem areMisnested_append (left right : List Node) :
    areMisnested (left ++ right) = (areMisnested left || areMisnested right) := by
  induction left with
  | nil => rfl
  | cons node rest induction =>
      rw [List.cons_append, areMisnested, areMisnested, induction, Bool.or_assoc]

theorem areMisnested_reverse (nodes : List Node) :
    areMisnested nodes.reverse = areMisnested nodes := by
  induction nodes with
  | nil => rfl
  | cons node rest induction =>
      rw [List.reverse_cons, areMisnested_append, induction, areMisnested, areMisnested,
        areMisnested, Bool.or_false, Bool.or_comm]

/-- The search with a list of pending trees finds what the recursion on the trees finds. -/
theorem anyMisnested_eq (pending : List Node) : anyMisnested pending = areMisnested pending := by
  fun_induction anyMisnested pending with
  | case1 => rfl
  | case2 name children pending induction =>
      rw [List.unattach_reverse, List.unattach_attach] at induction
      rw [induction, areMisnested_append, areMisnested_reverse, areMisnested, isMisnested,
        Bool.or_assoc]
  | case3 content pending induction => exact induction
  | case4 pending induction => exact induction

theorem hasMisnested_eq (forest : List Node) : hasMisnested forest = areMisnested forest := by
  rw [hasMisnested, anyMisnested_eq, areMisnested_reverse]

mutual

theorem isMisnested_of_isWellFormed {node : Node} (wellFormed : node.isWellFormed = true) :
    node.isMisnested = false := by
  cases node with
  | element name children =>
      rw [isMisnested, not_misnested_of_isWellFormed wellFormed,
        areMisnested_of_areWellFormed (children_of_isWellFormed wellFormed)]
      rfl
  | text content => rfl
  | comment => rfl

theorem areMisnested_of_areWellFormed {nodes : List Node}
    (wellFormed : areWellFormed nodes = true) : areMisnested nodes = false := by
  cases nodes with
  | nil => rfl
  | cons node rest =>
      rcases areWellFormed_cons wellFormed with ⟨head, tail, -⟩
      rw [areMisnested, isMisnested_of_isWellFormed head, areMisnested_of_areWellFormed tail]
      rfl

end

end Node

/-! ## Reading what was written -/

namespace Markup.Reader

open Node

/-- The reader with the text that it is in, if any, taken for complete. -/
def settle (reader : Reader) : Reader :=
  match reader.phase with
  | .text content => (reader.add (.text content.reverse)).goTo .between
  | _ => reader

def AtBreak (reader : Reader) : Prop :=
  reader.phase = .between ∨ ∃ content, reader.phase = .text content

def addAll (nodes : List Node) (reader : Reader) : Reader :=
  nodes.foldl (fun reader node => reader.add node) reader

def push (name : String) (reader : Reader) : Reader :=
  { reader with stack := ⟨name, []⟩ :: reader.stack }

theorem phase_add (node : Node) (reader : Reader) : (reader.add node).phase = reader.phase := by
  rw [add]
  split <;> rfl

theorem goTo_eq_self {reader : Reader} {phase : Phase} (there : reader.phase = phase) :
    reader.goTo phase = reader := by
  rw [goTo, ← there]

theorem goTo_add (phase : Phase) (node : Node) (reader : Reader) :
    (reader.add node).goTo phase = (reader.goTo phase).add node := by
  rw [add, add]
  split <;> simp_all [goTo]

theorem settle_eq_self {reader : Reader} (between : reader.phase = .between) :
    reader.settle = reader := by
  rw [settle, between]

theorem AtBreak.phase_settle {reader : Reader} (atBreak : reader.AtBreak) :
    reader.settle.phase = .between := by
  rw [settle]
  rcases atBreak with between | ⟨content, inText⟩
  · rw [between]
    exact between
  · rw [inText]
    rfl

/-! A bracket completes a text. -/

theorem AtBreak.step_bracket {reader : Reader} (atBreak : reader.AtBreak) :
    reader.step '<' = reader.settle.goTo .opened := by
  rw [step, settle]
  rcases atBreak with between | ⟨content, inText⟩
  · rw [between]
    rfl
  · rw [inText]
    rfl

/-- What a phase collects is held with its last character first. -/
theorem foldl_step_collecting (phase : List Char → Phase) {reader : Reader} {content : List Char}
    (collects : ∀ char ∈ content, ∀ before,
      (reader.goTo (phase before)).step char = reader.goTo (phase (char :: before)))
    (before : List Char) :
    content.foldl step (reader.goTo (phase before)) =
      reader.goTo (phase (content.reverse ++ before)) := by
  induction content generalizing before with
  | nil => rfl
  | cons char content induction =>
      rw [List.forall_mem_cons] at collects
      rw [List.foldl_cons, collects.1, induction collects.2, List.reverse_cons, List.append_assoc,
        List.singleton_append]

/-- A text that begins between two nodes. -/
theorem foldl_step_content {content : List Char} (nonempty : content ≠ []) (free : '<' ∉ content)
    {reader : Reader} (between : reader.phase = .between) :
    content.foldl step reader = reader.goTo (.text content.reverse) := by
  cases content with
  | nil => exact absurd rfl nonempty
  | cons char content =>
      rw [List.mem_cons, not_or] at free
      have stepped : reader.step char = reader.goTo (.text [char]) := by
        rw [step, between]
        exact if_neg (Ne.symm free.1)
      rw [List.foldl_cons, stepped, foldl_step_collecting .text, List.reverse_cons]
      intro next member before
      exact if_neg fun bracket : next = '<' => free.2 (bracket ▸ member)

theorem settle_text {content : List Char} {reader : Reader} (between : reader.phase = .between) :
    (reader.goTo (.text content.reverse)).settle = reader.add (.text content) := by
  change ((reader.goTo _).add (.text content.reverse.reverse)).goTo .between = _
  rw [List.reverse_reverse, goTo_add]
  exact congrArg _ (goTo_eq_self between)

/-! A tag is read up to its closing bracket. -/

theorem isNameChar_of_isPlainChar {char : Char} (plain : isPlainChar char = true) :
    isNameChar char = true :=
  forall_isPlainChar (fun char => isNameChar char = true) (by decide +kernel) plain

theorem goTo_openElement (phase : Phase) (name : String) (reader : Reader) :
    (reader.openElement name false).goTo phase = (reader.goTo phase).openElement name false := by
  rw [openElement, openElement]
  split
  · exact goTo_add phase _ reader
  · rfl

theorem goTo_close (phase : Phase) (reader : Reader) :
    reader.close.goTo phase = (reader.goTo phase).close := by
  rcases reader with ⟨before, stack, top⟩
  cases stack with
  | nil => rfl
  | cons element outer => exact goTo_add phase _ _

theorem goTo_closeNamed (phase : Phase) (name : String) (reader : Reader) :
    (reader.closeNamed name).goTo phase = (reader.goTo phase).closeNamed name := by
  rcases reader with ⟨before, stack, top⟩
  cases stack with
  | nil => rfl
  | cons element outer =>
      simp only [closeNamed, goTo]
      split
      · exact goTo_close phase _
      · rfl

theorem foldl_step_startTag {name : String} (plain : PlainName name.toList) {reader : Reader}
    (atBreak : reader.AtBreak) :
    (startTag name).foldl step reader = reader.settle.openElement name false := by
  rcases plain.exists_cons with ⟨initial, rest, named, lower, plainChars⟩
  rw [List.forall_mem_cons] at plainChars
  have started : (reader.settle.goTo .opened).step initial =
      reader.settle.goTo (.tagName [initial]) := by
    have notGap : isGap initial = false :=
      forall_isPlainChar (fun char => isGap char = false) (by decide +kernel) plainChars.1
    have notSlash : initial ≠ '/' := ne_of_isPlainChar plainChars.1 (by decide)
    have notMark : initial ≠ '!' := ne_of_isPlainChar plainChars.1 (by decide)
    simp [step, goTo, notGap, notSlash, notMark, isNameChar_of_isPlainChar plainChars.1]
  have collected : name.toList.foldl step (reader.settle.goTo .opened) =
      reader.settle.goTo (.tagName name.toList.reverse) := by
    rw [named, List.foldl_cons, started, List.reverse_cons]
    exact foldl_step_collecting .tagName
      (fun char member _ => if_pos (isNameChar_of_isPlainChar (plainChars.2 char member))) _
  rw [startTag, List.foldl_cons, atBreak.step_bracket, List.foldl_append, collected]
  change (Reader.openElement (String.ofList name.toList.reverse.reverse) false
    (reader.settle.goTo _)).goTo .between = _
  rw [List.reverse_reverse, String.ofList_toList, goTo_openElement]
  exact congrArg _ (goTo_eq_self atBreak.phase_settle)

theorem foldl_step_endTag {name : String} (free : '>' ∉ name.toList) {reader : Reader}
    (atBreak : reader.AtBreak) :
    (endTag name).foldl step reader = reader.settle.closeNamed name := by
  have collected : name.toList.foldl step (reader.settle.goTo (.endTag [])) =
      reader.settle.goTo (.endTag (name.toList.reverse ++ [])) := by
    refine foldl_step_collecting .endTag ?_ _
    intro char member before
    exact if_neg fun bracket : char = '>' => free (bracket ▸ member)
  have slashed : (reader.settle.goTo .opened).step '/' = reader.settle.goTo (.endTag []) := rfl
  rw [endTag, List.foldl_cons, atBreak.step_bracket, List.foldl_cons, slashed, List.foldl_append,
    collected, List.append_nil]
  change (Reader.closeNamed (String.ofList name.toList.reverse.reverse)
    (reader.settle.goTo _)).goTo .between = _
  rw [List.reverse_reverse, String.ofList_toList, goTo_closeNamed]
  exact congrArg _ (goTo_eq_self atBreak.phase_settle)

/-! Between the tags of an element its children are added to it. -/

theorem addAll_append (left right : List Node) (reader : Reader) :
    addAll (left ++ right) reader = addAll right (addAll left reader) :=
  List.foldl_append

theorem addAll_open (nodes : List Node) (reader : Reader) (element : OpenElement)
    (outer : List OpenElement) :
    addAll nodes { reader with stack := element :: outer } =
      { reader with
        stack := { element with children := nodes.reverse ++ element.children } :: outer } := by
  induction nodes generalizing element with
  | nil => rfl
  | cons node rest induction =>
      rw [List.reverse_cons, List.append_assoc, List.singleton_append]
      exact induction { element with children := node :: element.children }

theorem closeNamed_addAll_push (name : String) (nodes : List Node) (reader : Reader) :
    (addAll nodes (reader.push name)).closeNamed name = reader.add (.element name nodes) := by
  rw [push, addAll_open, closeNamed]
  simp only [if_pos, close, OpenElement.toNode, List.nil_append, List.append_nil,
    List.reverse_reverse]

theorem addAll_top (nodes : List Node) {reader : Reader} (outside : reader.stack = []) :
    addAll nodes reader = { reader with top := nodes.reverse ++ reader.top } := by
  induction nodes generalizing reader with
  | nil => rfl
  | cons node rest induction =>
      have added : reader.add node = { reader with top := node :: reader.top } := by
        rw [add, outside]
      rw [List.reverse_cons, List.append_assoc, List.singleton_append]
      exact (congrArg (addAll rest) added).trans (induction outside)

mutual

/-- Reading a tree adds it. Only after a text the reader does not know yet that it is complete. -/
theorem foldl_step_write {node : Node} (wellFormed : node.isWellFormed = true) {reader : Reader}
    (atBreak : reader.AtBreak) (apart : node.isText = true → reader.phase = .between) :
    (node.write.foldl step reader).AtBreak ∧
      (node.isText = false → (node.write.foldl step reader).phase = .between) ∧
      (node.write.foldl step reader).settle = reader.settle.add node := by
  cases node with
  | element name children =>
      have plain := plainName_of_isWellFormed wellFormed
      have between : (reader.settle.add (.element name children)).phase = .between :=
        (phase_add _ _).trans atBreak.phase_settle
      have written : (write (.element name children)).foldl step reader =
          reader.settle.add (.element name children) := by
        rw [write]
        by_cases void : contentless.contains name = true
        · rcases children_of_contentless wellFormed void with rfl
          rw [if_pos void, foldl_step_startTag plain atBreak, openElement, void]
          rfl
        · have opened : reader.settle.openElement name false = reader.settle.push name :=
            if_neg void
          have openBetween : (reader.settle.push name).phase = .between := atBreak.phase_settle
          rcases foldl_step_writeAll (children_of_isWellFormed wellFormed)
              (.inl openBetween) fun _ => openBetween with ⟨innerBreak, inner⟩
          rw [if_neg void, List.foldl_append, foldl_step_startTag plain atBreak, opened,
            List.foldl_append, foldl_step_endTag (plain.notMem (by decide)) innerBreak, inner,
            settle_eq_self openBetween, closeNamed_addAll_push]
      rw [written]
      exact ⟨.inl between, fun _ => between, settle_eq_self between⟩
  | text content =>
      rcases text_of_isWellFormed wellFormed with ⟨nonempty, free⟩
      have between := apart rfl
      rw [write, foldl_step_content nonempty free between]
      refine ⟨.inr ⟨_, rfl⟩, Bool.noConfusion, ?_⟩
      rw [settle_eq_self between, settle_text between]
  | comment => cases wellFormed

theorem foldl_step_writeAll {nodes : List Node} (wellFormed : areWellFormed nodes = true)
    {reader : Reader} (atBreak : reader.AtBreak)
    (apart : nodes.head?.any isText = true → reader.phase = .between) :
    ((writeAll nodes).foldl step reader).AtBreak ∧
      ((writeAll nodes).foldl step reader).settle = addAll nodes reader.settle := by
  cases nodes with
  | nil => exact ⟨atBreak, rfl⟩
  | cons node rest =>
      rcases areWellFormed_cons wellFormed with ⟨head, tail, headApart⟩
      rcases foldl_step_write head atBreak apart with ⟨middle, settled, added⟩
      have tailApart : rest.head?.any isText = true →
          (node.write.foldl step reader).phase = .between := by
        intro restText
        apply settled
        rw [Bool.eq_false_iff]
        intro nodeText
        rw [headApart nodeText] at restText
        cases restText
      rw [writeAll, List.foldl_append]
      rcases foldl_step_writeAll tail middle tailApart with ⟨last, all⟩
      refine ⟨last, ?_⟩
      rw [all, added]
      rfl

end

/-! At the end of the input nothing is open. -/

theorem nodes_finish {reader : Reader} (atBreak : reader.AtBreak) :
    reader.finish.nodes = reader.settle.nodes := by
  rw [finish, settle]
  rcases atBreak with between | ⟨content, inText⟩
  · rw [between]
  · rw [inText]
    rfl

end Markup.Reader

theorem Markup.read_writeAll {nodes : List Node} (wellFormed : Node.areWellFormed nodes = true) :
    read (Node.writeAll nodes) = nodes := by
  rcases @Reader.foldl_step_writeAll nodes wellFormed .start (.inl rfl) fun _ => rfl with
    ⟨atBreak, settled⟩
  rw [read, Reader.nodes_finish atBreak, settled, Reader.settle_eq_self rfl,
    Reader.addAll_top nodes rfl, Reader.nodes]
  simp [Reader.start]

end ChatMarkup
