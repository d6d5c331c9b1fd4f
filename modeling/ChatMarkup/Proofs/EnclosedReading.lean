import ChatMarkup.Proofs.NestedReading
import ChatMarkup.Proofs.ReaderEffects

/-!
Reading in an open element. As long as the element is open, what is read in it does not depend on
what is around it, and what is around it stays as it is. The element is closed by its own end tag
only, and may stay open even then, where the end tag is taken for part of something else.
-/

namespace ChatMarkup.Markup

/-- An element is still open at the end of content that follows its start tag. -/
def leavesOpen (name : String) (content : List Char) : Bool :=
  (content.foldl Reader.step (Reader.start.push name)).top.isEmpty

namespace Reader

def within (outer reader : Reader) : Reader :=
  ⟨reader.phase, reader.stack ++ outer.stack, outer.top⟩

structure IsOpen (name : String) (reader : Reader) : Prop where
  outermost : reader.names.getLast? = some name
  inside : reader.top = []

variable {reader : Reader} {name : String}

theorem IsOpen.exists_stack (isOpen : reader.IsOpen name) :
    ∃ phase element outer, reader = ⟨phase, element :: outer, []⟩ := by
  rcases reader with ⟨phase, stack, top⟩
  rcases isOpen with ⟨outermost, rfl⟩
  cases stack with
  | nil => cases outermost
  | cons element outer => exact ⟨phase, element, outer, rfl⟩

theorem isOpen_push (name : String) : (start.push name).IsOpen name := ⟨rfl, rfl⟩

theorem within_push {outer : Reader} (between : outer.phase = .between) (name : String) :
    within outer (start.push name) = outer.push name := by
  rcases outer with ⟨phase, stack, top⟩
  rcases (between : phase = _) with rfl
  rfl

/-! ## Effects in an open element -/

/-- An effect that leaves the element open is the same whatever is around it. -/
theorem IsOpen.apply {effect : Effect} (isOpen : reader.IsOpen name)
    (stays : (reader.apply effect).top = []) :
    (reader.apply effect).IsOpen name ∧
      ∀ outer, (within outer reader).apply effect = within outer (reader.apply effect) := by
  rcases isOpen.exists_stack with ⟨phase, element, inner, rfl⟩
  have outermost := isOpen.outermost
  cases effect with
  | keeps => exact ⟨isOpen, fun _ => rfl⟩
  | adds node => exact ⟨⟨outermost, rfl⟩, fun _ => rfl⟩
  | opens opened selfClosing =>
      rw [Reader.apply, openElement]
      split
      · rename_i empty
        exact ⟨⟨outermost, rfl⟩, fun _ => if_pos empty⟩
      · rename_i holds
        exact ⟨⟨outermost, rfl⟩, fun _ => if_neg holds⟩
  | closes closed =>
      rw [Reader.apply, closeNamed_cons] at stays ⊢
      split
      · rename_i same
        rw [if_pos same] at stays
        cases inner with
        | nil => cases stays
        | cons next inner => exact ⟨⟨outermost, rfl⟩, fun _ => if_pos same⟩
      · rename_i different
        exact ⟨isOpen, fun _ => if_neg different⟩

/-- What has been read outside of all elements is never lost. -/
theorem top_of_top_apply {effect : Effect} (empty : (reader.apply effect).top = []) :
    reader.top = [] := by
  rcases reader with ⟨phase, stack, top⟩
  have top_add : ∀ node outer, (add node ⟨phase, outer, top⟩).top = [] → top = [] := by
    intro node outer none
    cases outer with
    | nil => cases none
    | cons element outer => exact none
  cases effect with
  | keeps => exact empty
  | adds node => exact top_add node stack empty
  | opens opened selfClosing =>
      rw [Reader.apply, openElement] at empty
      split at empty
      · exact top_add _ stack empty
      · exact empty
  | closes closed =>
      cases stack with
      | nil => exact empty
      | cons element outer =>
          rw [Reader.apply, closeNamed_cons] at empty
          split at empty
          · exact top_add _ outer empty
          · exact empty

/-- Only closing ends an element, and only closing it by its name. -/
theorem IsOpen.top_apply {effect : Effect} (isOpen : reader.IsOpen name)
    (spared : effect ≠ .closes name) : (reader.apply effect).top = [] := by
  rcases isOpen.exists_stack with ⟨phase, element, inner, rfl⟩
  cases effect with
  | keeps => rfl
  | adds node => rfl
  | opens opened selfClosing =>
      rw [Reader.apply, openElement]
      split <;> rfl
  | closes closed =>
      rw [Reader.apply, closeNamed_cons]
      split
      · rename_i same
        cases inner with
        | nil =>
            have named : element.name = name := Option.some.inj isOpen.outermost
            exact absurd (congrArg Effect.closes (same.symm.trans named)) spared
        | cons next inner => rfl
      · rfl

/-! ## Steps in an open element -/

theorem IsOpen.step (isOpen : reader.IsOpen name) {char : Char}
    (stays : (reader.step char).top = []) :
    (reader.step char).IsOpen name ∧
      ∀ outer, (within outer reader).step char = within outer (reader.step char) := by
  rcases reader with ⟨phase, stack, top⟩
  rcases acts_step phase char with ⟨effect, next, has⟩
  rw [has.acts] at stays ⊢
  rcases isOpen.apply stays with ⟨stillOpen, same⟩
  refine ⟨⟨stillOpen.outermost, stillOpen.inside⟩, fun outer => ?_⟩
  rw [within, has.acts]
  exact congrArg (goTo next) (same outer)

theorem top_of_top_step {char : Char} (empty : (reader.step char).top = []) : reader.top = [] := by
  rcases reader with ⟨phase, stack, top⟩
  rcases acts_step phase char with ⟨effect, next, has⟩
  rw [has.acts] at empty
  exact top_of_top_apply empty

theorem top_of_top_foldl_step {text : List Char} (empty : (text.foldl step reader).top = []) :
    reader.top = [] := by
  induction text generalizing reader with
  | nil => exact empty
  | cons char text induction => exact top_of_top_step (induction empty)

/-- Text that leaves the element open is read in the same way whatever is around it. -/
theorem IsOpen.foldl_step (isOpen : reader.IsOpen name) {text : List Char}
    (stays : (text.foldl Reader.step reader).top = []) :
    (text.foldl Reader.step reader).IsOpen name ∧ ∀ outer,
      text.foldl Reader.step (within outer reader) =
        within outer (text.foldl Reader.step reader) := by
  induction text generalizing reader with
  | nil => exact ⟨isOpen, fun _ => rfl⟩
  | cons char text induction =>
      rcases isOpen.step (top_of_top_foldl_step stays) with ⟨stillOpen, stepped⟩
      rcases induction stillOpen stays with ⟨lastOpen, same⟩
      refine ⟨lastOpen, fun outer => ?_⟩
      rw [List.foldl_cons, stepped, same, List.foldl_cons]

/-- The element stays open where its end tag does not end. -/
theorem IsOpen.top_step (isOpen : reader.IsOpen name) {char : Char}
    (spared : char = '>' → reader.phase ≠ .endTag name.toList.reverse) :
    (reader.step char).top = [] := by
  rcases reader with ⟨phase, stack, top⟩
  rcases acts_step phase char with ⟨effect, next, has⟩
  rw [has.acts]
  apply isOpen.top_apply
  intro closed
  rcases has.closes name closed with ⟨bracket, reads⟩
  exact spared bracket reads

theorem IsOpen.foldl_step_of_free (isOpen : reader.IsOpen name) {text : List Char}
    (free : '>' ∉ text) : (text.foldl Reader.step reader).top = [] := by
  induction text generalizing reader with
  | nil => exact isOpen.inside
  | cons char text induction =>
      rw [List.mem_cons, not_or] at free
      exact induction (isOpen.step (isOpen.top_step fun bracket => absurd bracket.symm free.1)).1
        free.2

/-- Where the element is closed, it is added to what is around it. -/
theorem IsOpen.step_closing (isOpen : reader.IsOpen name) {char : Char}
    (closed : (reader.step char).top ≠ []) :
    ∃ children, ∀ outer,
      (within outer reader).step char = (outer.add (.element name children)).goTo .between := by
  have ends : char = '>' ∧ reader.phase = .endTag name.toList.reverse := by
    by_contra spared
    exact closed (isOpen.top_step fun bracket reads => spared ⟨bracket, reads⟩)
  rcases isOpen.exists_stack with ⟨phase, element, inner, rfl⟩
  rcases ends with ⟨rfl, reads⟩
  rcases (reads : phase = _) with rfl
  have stepped : ∀ stack top, Reader.step ⟨.endTag name.toList.reverse, stack, top⟩ '>' =
      (closeNamed name ⟨.endTag name.toList.reverse, stack, top⟩).goTo .between := by
    intro stack top
    change (closeNamed (String.ofList name.toList.reverse.reverse) _).goTo .between = _
    rw [List.reverse_reverse, String.ofList_toList]
  rw [stepped, closeNamed_cons] at closed
  split at closed
  · rename_i same
    cases inner with
    | nil =>
        refine ⟨element.children.reverse, fun outer => ?_⟩
        have node : element.toNode [] = .element name element.children.reverse := by
          rw [OpenElement.toNode, same]
          rfl
        rw [within, List.singleton_append, stepped, closeNamed_cons, if_pos same, goTo_add]
        change ((add (element.toNode []) _).goTo _) = _
        rw [node, goTo_add]
        rfl
    | cons next inner => exact absurd rfl closed
  · exact absurd rfl closed

/-! ## The end of the page -/

theorem IsOpen.finish (isOpen : reader.IsOpen name) :
    reader.finish.IsOpen name ∧
      ∀ outer, (within outer reader).finish = within outer reader.finish := by
  rcases isOpen.exists_stack with ⟨phase, element, inner, rfl⟩
  have outermost := isOpen.outermost
  cases phase with
  | text content => exact ⟨⟨outermost, rfl⟩, fun _ => rfl⟩
  | comment progress => exact ⟨⟨outermost, rfl⟩, fun _ => rfl⟩
  | _ => exact ⟨isOpen, fun _ => rfl⟩

/-- The element that is still open at the end of the page is the last node in what is around it. -/
theorem IsOpen.exists_nodes (isOpen : reader.IsOpen name) (outer : Reader) :
    ∃ children,
      (within outer reader).finish.nodes = (outer.add (.element name children)).nodes := by
  rcases isOpen.finish with ⟨stillOpen, finished⟩
  have outermost := stillOpen.outermost
  rw [names, List.getLast?_map, Option.map_eq_some_iff] at outermost
  rcases outermost with ⟨element, isLast, rfl⟩
  rcases List.getLast?_eq_some_iff.mp isLast with ⟨inner, stack⟩
  refine ⟨(around inner [] ++ element.children).reverse, ?_⟩
  have whole : around (reader.finish.stack ++ outer.stack) [] =
      around outer.stack [element.toNode (around inner [])] := by
    rw [stack, around, List.foldl_append, List.foldl_append]
    rfl
  rw [finished, nodes_add]
  exact congrArg (fun nodes => (nodes ++ outer.top).reverse) whole

/-! ## Tags in an open element -/

/-- If an end tag is being read, then it begins before the latest opening bracket, or `read` is what
has been read of its name. -/
def EndTagFrom (read : Option (List Char)) (reader : Reader) : Prop :=
  ∀ letters, reader.phase = .endTag letters → '<' ∈ letters ∨ read = some letters.reverse

theorem endTag_step {char : Char} {letters : List Char}
    (reads : (reader.step char).phase = .endTag letters) :
    (char = '/' ∧ letters = []) ∨
      ∃ before, reader.phase = .endTag before ∧ letters = char :: before := by
  rcases reader with ⟨phase, stack, top⟩
  rcases acts_step phase char with ⟨effect, next, has⟩
  rw [has.acts] at reads
  exact has.endTag letters reads

theorem endTagFrom_bracket (reader : Reader) : (reader.step '<').EndTagFrom none := by
  intro letters reads
  rcases endTag_step reads with ⟨slash, -⟩ | ⟨before, -, rfl⟩
  · exact absurd slash (by decide)
  · exact .inl List.mem_cons_self

theorem EndTagFrom.step_slash (from_ : reader.EndTagFrom none) :
    (reader.step '/').EndTagFrom (some []) := by
  intro letters reads
  rcases endTag_step reads with ⟨-, rfl⟩ | ⟨before, reading, rfl⟩
  · exact .inr rfl
  · rcases from_ before reading with bracket | none
    · exact .inl (List.mem_cons_of_mem _ bracket)
    · cases none

theorem EndTagFrom.foldl_step {read : Option (List Char)} (from_ : reader.EndTagFrom read)
    {text : List Char} (noSlash : '/' ∉ text) :
    (text.foldl step reader).EndTagFrom (read.map (· ++ text)) := by
  induction text generalizing reader read with
  | nil => simpa using from_
  | cons char text induction =>
      rw [List.mem_cons, not_or] at noSlash
      have stepped : (reader.step char).EndTagFrom (read.map (· ++ [char])) := by
        intro letters reads
        rcases endTag_step reads with ⟨slash, -⟩ | ⟨before, reading, rfl⟩
        · exact absurd slash.symm noSlash.1
        · rcases from_ before reading with bracket | begun
          · exact .inl (List.mem_cons_of_mem _ bracket)
          · right
            rw [begun, Option.map_some, List.reverse_cons]
      have all := induction stepped noSlash.2
      rw [Option.map_map] at all
      simpa [Function.comp_def] using all

/-- Nothing ends without a slash. -/
theorem IsOpen.foldl_step_of_slash_notMem (isOpen : reader.IsOpen name)
    (noBracket : '<' ∉ name.toList) (from_ : reader.EndTagFrom none) {text : List Char}
    (noSlash : '/' ∉ text) : (text.foldl Reader.step reader).top = [] := by
  induction text generalizing reader with
  | nil => exact isOpen.inside
  | cons char text induction =>
      rw [List.mem_cons, not_or] at noSlash
      have stays : (reader.step char).top = [] := by
        apply isOpen.top_step
        intro _ reads
        rcases from_ _ reads with bracket | none
        · exact noBracket (List.mem_reverse.mp bracket)
        · cases none
      have charFree : '/' ∉ [char] := fun member => noSlash.1 (List.mem_singleton.mp member)
      exact induction (isOpen.step stays).1 (from_.foldl_step charFree) noSlash.2

theorem leavesOpen_of_slash_notMem (noBracket : '<' ∉ name.toList) {content : List Char}
    (noSlash : '/' ∉ content) : leavesOpen name content = true :=
  List.isEmpty_iff.mpr ((isOpen_push name).foldl_step_of_slash_notMem noBracket nofun noSlash)

section Tags

variable {other : String}

/-- A tag that is not the end tag of the element leaves it open. -/
theorem IsOpen.foldl_step_bracket (isOpen : reader.IsOpen name) (noBracket : '<' ∉ name.toList)
    {text : List Char} (free : '>' ∉ text) {read : Option (List Char)}
    (reads : (text.foldl Reader.step reader).EndTagFrom read)
    (different : read ≠ some name.toList) :
    ((text ++ ['>']).foldl Reader.step reader).IsOpen name := by
  have stays : ((text ++ ['>']).foldl Reader.step reader).top = [] := by
    rw [List.foldl_append]
    apply (isOpen.foldl_step (isOpen.foldl_step_of_free free)).1.top_step
    intro _ reading
    rcases reads _ reading with bracket | same
    · exact noBracket (List.mem_reverse.mp bracket)
    · rw [List.reverse_reverse] at same
      exact different same
  exact (isOpen.foldl_step stays).1

theorem IsOpen.foldl_step_endTag (isOpen : reader.IsOpen name) (noBracket : '<' ∉ name.toList)
    (free : '>' ∉ other.toList) (noSlash : '/' ∉ other.toList) (different : other ≠ name) :
    ((Node.endTag other).foldl Reader.step reader).IsOpen name := by
  have reads := (endTagFrom_bracket reader).step_slash.foldl_step noSlash
  have tagFree : '>' ∉ '<' :: '/' :: other.toList := by simpa using free
  refine isOpen.foldl_step_bracket noBracket tagFree reads ?_
  simpa using fun same => different (String.toList_injective same)

theorem IsOpen.foldl_step_startTag (isOpen : reader.IsOpen name) (noBracket : '<' ∉ name.toList)
    (free : '>' ∉ other.toList) (noSlash : '/' ∉ other.toList) :
    ((Node.startTag other).foldl Reader.step reader).IsOpen name := by
  have reads := (endTagFrom_bracket reader).foldl_step noSlash
  have tagFree : '>' ∉ '<' :: other.toList := by simpa using free
  exact isOpen.foldl_step_bracket noBracket tagFree reads nofun

/-- The end tag of the element closes it, or is taken for part of something else. -/
theorem IsOpen.foldl_step_ownEndTag (isOpen : reader.IsOpen name) (free : '>' ∉ name.toList) :
    ((Node.endTag name).foldl Reader.step reader).IsOpen name ∨
      ∃ children, ∀ outer, (Node.endTag name).foldl Reader.step (within outer reader) =
        (outer.add (.element name children)).goTo .between := by
  by_cases stays : ((Node.endTag name).foldl Reader.step reader).top = []
  · exact .inl (isOpen.foldl_step stays).1
  · right
    have tagFree : '>' ∉ '<' :: '/' :: name.toList := by simpa using free
    rcases isOpen.foldl_step (isOpen.foldl_step_of_free tagFree) with ⟨stillOpen, same⟩
    have whole : Node.endTag name = '<' :: '/' :: name.toList ++ ['>'] := rfl
    rw [whole, List.foldl_append] at stays
    rcases stillOpen.step_closing stays with ⟨children, closes⟩
    refine ⟨children, fun outer => ?_⟩
    rw [whole, List.foldl_append, same]
    exact closes outer

end Tags

/-! ## The element and what comes after it -/

inductive EndsWith (name : String) (outer : Reader) : Reader → Prop where
  | opened {inner : Reader} : inner.IsOpen name → EndsWith name outer (within outer inner)
  | closed {reader : Reader} (children : List Node) : reader.phase = .between →
      reader.nodes = (outer.add (.element name children)).nodes → EndsWith name outer reader

variable {outer : Reader}

theorem IsOpen.endsWith_foldl_step (isOpen : reader.IsOpen name) {text : List Char}
    (stays : (text.foldl Reader.step reader).IsOpen name) (outer : Reader) :
    EndsWith name outer (text.foldl Reader.step (within outer reader)) := by
  rw [(isOpen.foldl_step stays.inside).2]
  exact .opened stays

/-- The start tag of an element and content that leaves it open. -/
theorem AtBreak.exists_foldl_step_opened (atBreak : reader.AtBreak)
    (isName : isReadName name.toList = true) (holds : contentless.contains name = false)
    {content : List Char} (stays : leavesOpen name content = true) :
    ∃ inner, inner.IsOpen name ∧
      (Node.startTag name ++ content).foldl Reader.step reader = within reader.settle inner := by
  have opened := foldl_step_bareTag isName atBreak
  rw [String.ofList_toList, openElement, holds] at opened
  have inside := (isOpen_push name).foldl_step (List.isEmpty_iff.mp stays)
  refine ⟨_, inside.1, ?_⟩
  have tag : (Node.startTag name).foldl Reader.step reader = reader.settle.push name := opened
  rw [List.foldl_append, tag, ← within_push atBreak.phase_settle]
  exact inside.2 reader.settle

/-- The start tag of an element, content that leaves it open, and its end tag. -/
theorem AtBreak.foldl_step_enclosed (atBreak : reader.AtBreak)
    (isName : isReadName name.toList = true) (holds : contentless.contains name = false)
    {content : List Char} (stays : leavesOpen name content = true) :
    (∃ inner, inner.IsOpen name ∧
      (Node.startTag name ++ (content ++ Node.endTag name)).foldl Reader.step reader =
        within reader.settle inner) ∨
    ∃ children, (Node.startTag name ++ (content ++ Node.endTag name)).foldl Reader.step reader =
      (reader.settle.add (.element name children)).goTo .between := by
  rcases atBreak.exists_foldl_step_opened isName holds stays with ⟨inner, isOpen, whole⟩
  rw [← List.append_assoc, List.foldl_append, whole]
  rcases isOpen.foldl_step_ownEndTag (notMem_of_isReadName isName (by decide)) with
    stillOpen | ⟨children, closes⟩
  · exact .inl ⟨_, stillOpen, (isOpen.foldl_step stillOpen.inside).2 _⟩
  · exact .inr ⟨children, closes _⟩

theorem AtBreak.endsWith_foldl_step (atBreak : reader.AtBreak)
    (isName : isReadName name.toList = true) (holds : contentless.contains name = false)
    {content : List Char} (stays : leavesOpen name content = true) :
    EndsWith name reader.settle
      ((Node.startTag name ++ (content ++ Node.endTag name)).foldl Reader.step reader) := by
  rcases atBreak.foldl_step_enclosed isName holds stays with
    ⟨inner, isOpen, whole⟩ | ⟨children, whole⟩
  · rw [whole]
    exact .opened isOpen
  · rw [whole]
    exact .closed children rfl rfl

theorem nodes_closeNamed (name : String) (reader : Reader) :
    (reader.closeNamed name).nodes = reader.nodes := by
  rcases reader with ⟨phase, stack, top⟩
  cases stack with
  | nil => rfl
  | cons element outer =>
      rw [closeNamed_cons]
      split
      · exact nodes_close _
      · rfl

/-- End tags of other elements add nothing. -/
theorem EndsWith.foldl_step_endTag (ends : EndsWith name outer reader)
    (isName : isReadName name.toList = true) {other : String}
    (isOther : isReadName other.toList = true) (different : other ≠ name) :
    EndsWith name outer ((Node.endTag other).foldl Reader.step reader) := by
  have free : '>' ∉ other.toList := notMem_of_isReadName isOther (by decide)
  cases ends with
  | opened isOpen =>
      have noSlash : '/' ∉ other.toList := fun member =>
        ((isReadName_iff.mp isOther).2 '/' member).2 rfl
      exact isOpen.endsWith_foldl_step (isOpen.foldl_step_endTag
        (notMem_of_isReadName isName (by decide)) free noSlash different) outer
  | closed children between nodes =>
      rw [Reader.foldl_step_endTag free (.inl between), settle_eq_self between]
      exact .closed children ((phase_closeNamed other reader).trans between)
        ((nodes_closeNamed other reader).trans nodes)

theorem EndsWith.exists_nodes (ends : EndsWith name outer reader) :
    ∃ children, reader.finish.nodes = (outer.add (.element name children)).nodes := by
  cases ends with
  | opened isOpen => exact isOpen.exists_nodes outer
  | closed children between nodes =>
      refine ⟨children, ?_⟩
      rw [nodes_finish (.inl between), settle_eq_self between, nodes]

end Reader

end ChatMarkup.Markup
