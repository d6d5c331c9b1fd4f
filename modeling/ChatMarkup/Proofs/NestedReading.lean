import ChatMarkup.Proofs.ExpandedTags
import ChatMarkup.Proofs.RoundTrip

/-!
What the forgiving reader makes of tags with attributes, of comments and of declarations, and when
nothing in what it has read is misnested. Closing an element leaves the nodes as they are, so that
only the place where a node is added matters.
-/

namespace ChatMarkup.Markup

open Node Source

namespace Reader

variable {reader : Reader}

/-! ## Nodes that are misnested -/

def around (stack : List OpenElement) (inner : List Node) : List Node :=
  stack.foldl (fun inner element => [element.toNode inner]) inner

def names (reader : Reader) : List String := reader.stack.map (·.name)

theorem areMisnested_singleton (node : Node) : areMisnested [node] = node.isMisnested := by
  rw [areMisnested, areMisnested, Bool.or_false]

theorem isMisnested_toNode (element : OpenElement) (inner : List Node) :
    (element.toNode inner).isMisnested =
      ((inner.any (misnestedIn element.name) || areMisnested inner) ||
        (element.children.any (misnestedIn element.name) || areMisnested element.children)) := by
  rw [OpenElement.toNode, isMisnested, List.any_reverse, areMisnested_reverse, List.any_append,
    areMisnested_append]
  ac_rfl

/-- Nodes that are nested themselves may be added where the innermost open element does not close
them. -/
theorem areMisnested_around (stack : List OpenElement) (inner : List Node) :
    areMisnested (around stack inner) = false ↔
      areMisnested inner = false ∧
        (∀ element ∈ stack.head?, inner.any (misnestedIn element.name) = false) ∧
          areMisnested (around stack []) = false := by
  induction stack generalizing inner with
  | nil => simp [around, areMisnested]
  | cons element outer induction =>
      have step : ∀ inner, around (element :: outer) inner = around outer [element.toNode inner] :=
        fun inner => rfl
      have same : ∀ parent : OpenElement, [element.toNode inner].any (misnestedIn parent.name) =
          [element.toNode []].any (misnestedIn parent.name) := fun parent => rfl
      rw [step, step, induction, induction [element.toNode []], areMisnested_singleton,
        areMisnested_singleton, isMisnested_toNode, isMisnested_toNode]
      simp only [same, List.any_nil, areMisnested, Bool.or_false, Bool.false_or,
        Bool.or_eq_false_iff, List.head?_cons, Option.mem_some_iff, forall_eq']
      tauto

def Nested (reader : Reader) : Prop := areMisnested reader.nodes = false

theorem nested_iff (inner : List Node) :
    areMisnested (around reader.stack inner ++ reader.top).reverse = false ↔
      areMisnested inner = false ∧
        (∀ element ∈ reader.stack.head?, inner.any (misnestedIn element.name) = false) ∧
          reader.Nested := by
  have nodes : reader.nodes = (around reader.stack [] ++ reader.top).reverse := rfl
  rw [Nested, nodes, areMisnested_reverse, areMisnested_reverse, areMisnested_append,
    areMisnested_append, Bool.or_eq_false_iff, Bool.or_eq_false_iff, areMisnested_around]
  tauto

theorem nodes_add (node : Node) (reader : Reader) :
    (reader.add node).nodes = (around reader.stack [node] ++ reader.top).reverse := by
  rcases reader with ⟨phase, stack, top⟩
  cases stack <;> rfl

theorem names_add (node : Node) (reader : Reader) : (reader.add node).names = reader.names := by
  rcases reader with ⟨phase, stack, top⟩
  cases stack <;> rfl

theorem nodes_close (reader : Reader) : reader.close.nodes = reader.nodes := by
  rcases reader with ⟨phase, stack, top⟩
  cases stack with
  | nil => rfl
  | cons element outer => exact nodes_add (element.toNode []) ⟨phase, outer, top⟩

theorem names_close (reader : Reader) : reader.close.names = reader.names.tail := by
  rcases reader with ⟨phase, stack, top⟩
  cases stack with
  | nil => rfl
  | cons element outer => exact names_add (element.toNode []) ⟨phase, outer, top⟩

def Admits (node : Node) (reader : Reader) : Prop :=
  ∀ name ∈ reader.names.head?, misnestedIn name node = false

theorem Nested.admit {node : Node} (nested : reader.Nested) (leaf : node.isMisnested = false)
    (admits : reader.Admits node) :
    areMisnested (around reader.stack [node] ++ reader.top).reverse = false := by
  rw [nested_iff, areMisnested_singleton]
  refine ⟨leaf, fun element latest => ?_, nested⟩
  rw [List.any_cons, List.any_nil, Bool.or_false]
  apply admits
  rw [names, List.head?_map]
  exact Option.mem_map_of_mem _ latest

theorem Nested.add {node : Node} (nested : reader.Nested) (leaf : node.isMisnested = false)
    (admits : reader.Admits node) : (reader.add node).Nested := by
  rw [Nested, nodes_add]
  exact nested.admit leaf admits

theorem Nested.push {name : String} (nested : reader.Nested)
    (admits : reader.Admits (.element name [])) : (reader.push name).Nested :=
  nested.admit rfl admits

theorem Nested.close (nested : reader.Nested) : reader.close.Nested := by
  rw [Nested, nodes_close]
  exact nested

theorem Nested.settle (nested : reader.Nested) : reader.settle.Nested := by
  rw [Reader.settle]
  split
  · exact nested.add rfl fun _ _ => rfl
  · exact nested

theorem closeNamed_cons (name : String) (phase : Phase) (element : OpenElement)
    (outer : List OpenElement) (top : List Node) :
    (⟨phase, element :: outer, top⟩ : Reader).closeNamed name =
      if element.name = name then (⟨phase, element :: outer, top⟩ : Reader).close
      else ⟨phase, element :: outer, top⟩ :=
  rfl

theorem phase_closeNamed (name : String) (reader : Reader) :
    (reader.closeNamed name).phase = reader.phase := by
  rcases reader with ⟨phase, stack, top⟩
  cases stack with
  | nil => rfl
  | cons element outer =>
      rw [closeNamed_cons]
      split
      · exact phase_add (element.toNode []) ⟨phase, outer, top⟩
      · rfl

theorem Nested.closeNamed (nested : reader.Nested) (name : String) :
    (reader.closeNamed name).Nested := by
  rw [Reader.closeNamed]
  split
  · exact nested
  · split
    · exact nested.close
    · exact nested

theorem names_closeNamed {name : String} {outer : List String}
    (opened : reader.names = name :: outer) : (reader.closeNamed name).names = outer := by
  rcases reader with ⟨phase, stack, top⟩
  cases stack with
  | nil => cases opened
  | cons element stack =>
      rcases List.cons.inj opened with ⟨rfl, rfl⟩
      rw [closeNamed_cons, if_pos rfl, names_close]
      rfl

/-- An end tag with another name closes nothing. -/
theorem closeNamed_of_ne {name latest : String} (opened : latest ∈ reader.names.head?)
    (different : latest ≠ name) : reader.closeNamed name = reader := by
  rcases reader with ⟨phase, stack, top⟩
  cases stack with
  | nil => rfl
  | cons element stack =>
      cases opened
      exact if_neg different

theorem names_settle (reader : Reader) : reader.settle.names = reader.names := by
  rw [settle]
  split
  · exact names_add _ _
  · rfl

/-! ## Texts -/

theorem AtBreak.exists_foldl_step (atBreak : reader.AtBreak) {content : List Char}
    (free : '<' ∉ content) :
    ∃ phase, content.foldl step reader = reader.goTo phase ∧ (reader.goTo phase).AtBreak := by
  cases content with
  | nil => exact ⟨reader.phase, rfl, atBreak⟩
  | cons char rest =>
      rcases atBreak with between | ⟨before, inText⟩
      · rw [foldl_step_content (List.cons_ne_nil _ _) free between]
        exact ⟨_, rfl, .inr ⟨_, rfl⟩⟩
      · have collected := @foldl_step_collecting .text reader (char :: rest)
          (fun next member before => if_neg fun bracket : next = '<' => free (bracket ▸ member))
          before
        rw [goTo_eq_self inText] at collected
        rw [collected]
        exact ⟨_, rfl, .inr ⟨_, rfl⟩⟩

/-! ## Tags with attributes -/

/-- What both readers take for a name. -/
def isReadName (name : List Char) : Bool :=
  !name.isEmpty && name.all fun char => isNameChar char && char != '/'

theorem isReadName_iff {name : List Char} : isReadName name = true ↔
    name ≠ [] ∧ ∀ char ∈ name, isNameChar char = true ∧ char ≠ '/' := by
  simp [isReadName]

theorem ne_of_isNameChar {char other : Char} (named : isNameChar char = true)
    (different : isNameChar other = false) : char ≠ other := by
  rintro rfl
  rw [named] at different
  cases different

theorem isGap_of_isNameChar {char : Char} (named : isNameChar char = true) :
    isGap char = false := by
  have noSpace : char ≠ ' ' := ne_of_isNameChar named (by decide)
  have noBreak : char ≠ '\n' := ne_of_isNameChar named (by decide)
  simp [isGap, noSpace, noBreak]

theorem notMem_of_isReadName {name : List Char} (isName : isReadName name = true) {other : Char}
    (different : isNameChar other = false) : other ∉ name := fun member =>
  ne_of_isNameChar ((isReadName_iff.mp isName).2 other member).1 different rfl

def spelled (names : List (List Char)) : List Char :=
  names.flatMap fun name => ' ' :: (name ++ ['=', '"', '"'])

theorem foldl_step_staying {phase : Phase} {content : List Char}
    (stays : ∀ char ∈ content, (reader.goTo phase).step char = reader.goTo phase) :
    content.foldl step (reader.goTo phase) = reader.goTo phase := by
  induction content with
  | nil => rfl
  | cons char content induction =>
      rw [List.forall_mem_cons] at stays
      rw [List.foldl_cons, stays.1, induction stays.2]

/-- Wherever an attribute may begin, the next character is read in one way. -/
theorem stepAttributes_goTo (phase : Phase) (owner : String) (char : Char) (reader : Reader) :
    (reader.goTo phase).stepAttributes owner char = reader.stepAttributes owner char := by
  rw [stepAttributes, stepAttributes]
  split
  · rw [goTo_openElement, goTo_openElement]
    rfl
  · rfl

/-- An attribute leads back to where one may begin. -/
theorem foldl_step_attribute {name value : List Char} (isName : isReadName name = true)
    (free : '"' ∉ value) (owner : String) (reader : Reader) :
    (' ' :: (name ++ '=' :: '"' :: (value ++ ['"']))).foldl step
        (reader.goTo (.attributes owner)) =
      reader.goTo (.attributes owner) := by
  rcases isReadName_iff.mp isName with ⟨nonempty, nameChars⟩
  rcases List.exists_cons_of_ne_nil nonempty with ⟨first, rest, rfl⟩
  rw [List.forall_mem_cons] at nameChars
  have spaced : (reader.goTo (.attributes owner)).step ' ' = reader.goTo (.attributes owner) := rfl
  have begun : (reader.goTo (.attributes owner)).step first =
      reader.goTo (.attributeName owner) := by
    have noEnd : first ≠ '>' := ne_of_isNameChar nameChars.1.1 (by decide)
    simp [step, goTo, stepAttributes, noEnd, nameChars.1.1, nameChars.1.2]
  have named : rest.foldl step (reader.goTo (.attributeName owner)) =
      reader.goTo (.attributeName owner) :=
    foldl_step_staying fun char member => if_pos (nameChars.2 char member).1
  have valued : value.foldl step (reader.goTo (.quotedValue owner '"')) =
      reader.goTo (.quotedValue owner '"') :=
    foldl_step_staying fun char member => if_neg fun quote : char = '"' => free (quote ▸ member)
  have collected : (first :: rest).foldl step (reader.goTo (.attributes owner)) =
      reader.goTo (.attributeName owner) := by
    rw [List.foldl_cons, begun, named]
  rw [List.foldl_cons, spaced, List.foldl_append, collected]
  change (value ++ ['"']).foldl step (reader.goTo (.quotedValue owner '"')) = _
  rw [List.foldl_append, valued]
  rfl

/-- The attributes of a tag up to its end. -/
theorem foldl_step_attributes {names : List (List Char)}
    (isNames : ∀ name ∈ names, isReadName name = true) {source : List Char}
    (outside : unquoted false source = spelled names ++ ['>']) (owner : String)
    (reader : Reader) :
    source.foldl step (reader.goTo (.attributes owner)) =
      (reader.openElement owner false).goTo .between := by
  induction names generalizing source with
  | nil =>
      rcases @exists_of_unquoted_append ['>'] _ _ (by decide) outside with ⟨later, rfl, none⟩
      rw [eq_nil_of_unquoted none]
      exact stepAttributes_goTo (.attributes owner) owner '>' reader
  | cons name names induction =>
      rw [List.forall_mem_cons] at isNames
      have quoteFree : '"' ∉ ' ' :: (name ++ ['=']) := by
        simpa using notMem_of_isReadName isNames.1 (by decide)
      have split : unquoted false source =
          ' ' :: (name ++ ['=']) ++ '"' :: '"' :: (spelled names ++ ['>']) := by
        rw [outside, spelled, List.flatMap_cons, spelled]
        simp
      rcases exists_of_unquoted_append quoteFree split with ⟨quoted, rfl, afterName⟩
      rcases exists_of_unquoted_value afterName with ⟨value, later, rfl, free, afterValue⟩
      have passed := foldl_step_attribute isNames.1 free owner reader
      have whole : ' ' :: (name ++ ['=']) ++ '"' :: (value ++ '"' :: later) =
          ' ' :: (name ++ '=' :: '"' :: (value ++ ['"'])) ++ later := by
        simp
      rw [whole, List.foldl_append, passed]
      exact induction isNames.2 afterValue

theorem exists_cons_spelled (names : List (List Char)) : ∃ next tail,
    spelled names ++ ['>'] = next :: tail ∧ isNameChar next = false ∧ next ≠ '"' := by
  cases names with
  | nil => exact ⟨'>', [], rfl, by decide, by decide⟩
  | cons name names => exact ⟨' ', _, rfl, by decide, by decide⟩

/-- A start tag, whatever its values are. -/
theorem foldl_step_tag {name : String} {names : List (List Char)}
    (isName : isReadName name.toList = true) (isNames : ∀ name ∈ names, isReadName name = true)
    {source : List Char}
    (outside : unquoted false source = '<' :: name.toList ++ (spelled names ++ ['>']))
    (atBreak : reader.AtBreak) :
    source.foldl step reader = reader.settle.openElement name false := by
  have quoteFree : '"' ∉ '<' :: name.toList := by
    simpa using notMem_of_isReadName isName (by decide)
  rcases exists_of_unquoted_append quoteFree outside with ⟨later, rfl, afterName⟩
  rcases isReadName_iff.mp isName with ⟨nonempty, nameChars⟩
  rcases List.exists_cons_of_ne_nil nonempty with ⟨first, rest, named⟩
  have allNamed := nameChars
  rw [named, List.forall_mem_cons] at nameChars
  have started : (reader.settle.goTo .opened).step first =
      reader.settle.goTo (.tagName [first]) := by
    have notMark : first ≠ '!' := ne_of_isNameChar nameChars.1.1 (by decide)
    simp [step, goTo, isGap_of_isNameChar nameChars.1.1, nameChars.1.2, notMark, nameChars.1.1]
  have collected : name.toList.foldl step (reader.settle.goTo .opened) =
      reader.settle.goTo (.tagName name.toList.reverse) := by
    rw [named, List.foldl_cons, started, List.reverse_cons]
    exact foldl_step_collecting .tagName
      (fun char member _ => if_pos (nameChars.2 char member).1) _
  -- What follows the name is read as after white space, because it is no part of the name.
  have attributes : later.foldl step (reader.settle.goTo (.tagName name.toList.reverse)) =
      later.foldl step (reader.settle.goTo (.attributes name)) := by
    rcases exists_cons_spelled names with ⟨next, tail, begins, noName, noQuote⟩
    rw [begins] at afterName
    rcases @exists_of_unquoted_append [next] _ _ (by simpa using Ne.symm noQuote) afterName with
      ⟨more, rfl, -⟩
    have ended : (reader.settle.goTo (.tagName name.toList.reverse)).step next =
        (reader.settle.goTo (.tagName name.toList.reverse)).stepAttributes name next := by
      have notNamed : ¬isNameChar next = true := Bool.eq_false_iff.mp noName
      refine (if_neg notNamed).trans ?_
      rw [List.reverse_reverse, String.ofList_toList]
    have there : (reader.settle.goTo (.attributes name)).step next =
        (reader.settle.goTo (.attributes name)).stepAttributes name next := rfl
    rw [List.singleton_append, List.foldl_cons, List.foldl_cons, ended, there, stepAttributes_goTo,
      stepAttributes_goTo]
  rw [List.cons_append, List.foldl_cons, atBreak.step_bracket, List.foldl_append, collected,
    attributes, foldl_step_attributes isNames afterName, goTo_openElement]
  exact congrArg _ (goTo_eq_self atBreak.phase_settle)

/-- A start tag without attributes. -/
theorem foldl_step_bareTag {name : List Char} (isName : isReadName name = true)
    (atBreak : reader.AtBreak) :
    ('<' :: (name ++ ['>'])).foldl step reader =
      reader.settle.openElement (String.ofList name) false := by
  have quoteFree : '"' ∉ '<' :: (name ++ ['>']) := by
    simpa using notMem_of_isReadName isName (by decide)
  refine @foldl_step_tag reader (String.ofList name) [] ?_ (List.forall_mem_nil _) _ ?_ atBreak
  · rw [String.toList_ofList]
    exact isName
  · rw [unquoted_false_of_free quoteFree, String.toList_ofList]
    rfl

/-! ## Comments -/

/-- The comment ends at the end of the text, and not before. -/
def closesComment : CommentEnd → List Char → Bool
  | _, [] => false
  | .dashes, '>' :: rest => rest.isEmpty
  | .dash, '-' :: rest => closesComment .dashes rest
  | .far, '-' :: rest => closesComment .dash rest
  | _, _ :: rest => closesComment .far rest

theorem foldl_step_commentRest {progress : CommentEnd} {source : List Char}
    (closes : closesComment progress source = true) (reader : Reader) :
    source.foldl step (reader.goTo (.comment progress)) =
      (reader.add .comment).goTo .between := by
  induction source generalizing progress with
  | nil => cases progress <;> cases closes
  | cons char rest induction =>
      have stepped : (reader.goTo (.comment progress)).step char =
          (reader.goTo (.comment progress)).stepComment progress char := rfl
      rw [List.foldl_cons, stepped]
      unfold closesComment at closes
      unfold stepComment
      split at closes
      · rename_i ends
        cases ends
      · rename_i ends
        cases ends
        rw [List.isEmpty_iff.mp closes, List.foldl_nil]
        change ((reader.goTo _).add .comment).goTo .between = _
        rw [goTo_add, goTo_add]
        rfl
      · rename_i ends
        cases ends
        exact induction closes
      · rename_i ends
        cases ends
        exact induction closes
      · rename_i noEnd noSecond noFirst ends
        cases ends
        split
        · exact (noEnd rfl rfl).elim
        · exact (noSecond rfl rfl).elim
        · exact (noFirst rfl rfl).elim
        · exact induction closes

theorem foldl_step_comment {source : List Char} (closes : closesComment .dashes source = true)
    (atBreak : reader.AtBreak) :
    ('<' :: '!' :: '-' :: '-' :: source).foldl step reader = reader.settle.add .comment := by
  rw [List.foldl_cons, atBreak.step_bracket]
  change source.foldl step (reader.settle.goTo (.comment .dashes)) = _
  rw [foldl_step_commentRest closes, goTo_add]
  exact congrArg _ (goTo_eq_self atBreak.phase_settle)

/-! ## Declarations -/

/-- Whatever comes up to the end of the declaration, the reader is between nodes or in a text then. -/
def isLoose : Phase → Bool
  | .declarationGap _ => true
  | .doctypeWord => true
  | .doctypeGap => true
  | .between => true
  | .text _ => true
  | _ => false

theorem exists_stepDoctypeEnd (char : Char) (reader : Reader) :
    ∃ next, reader.stepDoctypeEnd char = reader.goTo next ∧ isLoose next = true ∧
      (reader.goTo next).AtBreak := by
  rw [stepDoctypeEnd]
  split
  · exact ⟨.between, rfl, rfl, .inl rfl⟩
  · exact ⟨_, rfl, rfl, .inr ⟨_, rfl⟩⟩

theorem exists_step_loose {phase : Phase} (loose : isLoose phase = true) {char : Char}
    (different : char ≠ '<') (reader : Reader) :
    ∃ next, (reader.goTo phase).step char = reader.goTo next ∧ isLoose next = true ∧
      (isGap char = false → isNameChar char = false → (reader.goTo next).AtBreak) := by
  cases phase with
  | between => exact ⟨_, if_neg different, rfl, fun _ _ => .inr ⟨_, rfl⟩⟩
  | text content => exact ⟨_, if_neg different, rfl, fun _ _ => .inr ⟨_, rfl⟩⟩
  | declarationGap isDoctype =>
      change ∃ next, (reader.goTo _).stepDeclarationGap isDoctype char = _ ∧ _
      rw [stepDeclarationGap]
      split
      · rename_i gap
        exact ⟨_, rfl, rfl, fun noGap => absurd gap (Bool.eq_false_iff.mp noGap)⟩
      · split
        · rename_i named
          exact ⟨_, rfl, rfl, fun _ noName =>
            absurd (Bool.and_eq_true_iff.mp named).2 (Bool.eq_false_iff.mp noName)⟩
        · exact ⟨_, if_neg different, rfl, fun _ _ => .inr ⟨_, rfl⟩⟩
  | doctypeWord =>
      change ∃ next, (if isNameChar char then _ else if isGap char then _ else _) = _ ∧ _
      split
      · rename_i named
        exact ⟨.doctypeWord, rfl, rfl, fun _ noName =>
          absurd named (Bool.eq_false_iff.mp noName)⟩
      · split
        · rename_i gap
          exact ⟨_, rfl, rfl, fun noGap => absurd gap (Bool.eq_false_iff.mp noGap)⟩
        · rcases exists_stepDoctypeEnd char (reader.goTo .doctypeWord) with
            ⟨next, stepped, nextLoose, atBreak⟩
          exact ⟨next, stepped, nextLoose, fun _ _ => atBreak⟩
  | doctypeGap =>
      change ∃ next, (if isGap char then _ else _) = _ ∧ _
      split
      · rename_i gap
        exact ⟨.doctypeGap, rfl, rfl, fun noGap => absurd gap (Bool.eq_false_iff.mp noGap)⟩
      · rcases exists_stepDoctypeEnd char (reader.goTo .doctypeGap) with
          ⟨next, stepped, nextLoose, atBreak⟩
        exact ⟨next, stepped, nextLoose, fun _ _ => atBreak⟩
  | _ => cases loose

theorem exists_foldl_step_loose {phase : Phase} (loose : isLoose phase = true) {name : List Char}
    (free : '<' ∉ name) (reader : Reader) :
    ∃ next, (name ++ ['>']).foldl step (reader.goTo phase) = reader.goTo next ∧
      (reader.goTo next).AtBreak := by
  induction name generalizing phase with
  | nil =>
      rcases exists_step_loose loose (by decide : '>' ≠ '<') reader with
        ⟨next, stepped, -, atBreak⟩
      exact ⟨next, stepped, atBreak (by decide) (by decide)⟩
  | cons char name induction =>
      rw [List.mem_cons, not_or] at free
      rcases exists_step_loose loose (Ne.symm free.1) reader with ⟨next, stepped, nextLoose, -⟩
      rw [List.cons_append, List.foldl_cons, stepped]
      exact induction nextLoose free.2

theorem exists_foldl_step_doctype {name : List Char} (free : '<' ∉ name)
    (atBreak : reader.AtBreak) :
    ∃ next, ("<!DOCTYPE ".toList ++ (name ++ ['>'])).foldl step reader = reader.settle.goTo next ∧
      (reader.settle.goTo next).AtBreak := by
  rw [List.foldl_append]
  have begun : "<!DOCTYPE ".toList.foldl step reader =
      reader.settle.goTo (.declarationGap true) := by
    change "!DOCTYPE ".toList.foldl step (reader.step '<') = _
    rw [atBreak.step_bracket]
    rfl
  rw [begun]
  exact exists_foldl_step_loose rfl free _

end Reader

end ChatMarkup.Markup
