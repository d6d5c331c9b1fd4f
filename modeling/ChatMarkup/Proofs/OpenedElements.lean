import ChatMarkup.Proofs.Descendants
import ChatMarkup.Proofs.EnclosedReading
import Mathlib.Data.List.Induction

/-!
Where the elements of a tree come from. The forgiving reader opens an element at the closing bracket
of a start tag and nowhere else, and no element is lost again. So an element with a name is in the
tree exactly if a start tag with this name has been read: behind an opening bracket, and perhaps
white space, stands the name, and the reader stays in the tag up to a closing bracket that is in no
quoted value.
-/

namespace ChatMarkup.Markup

open Node

namespace Reader

variable {reader : Reader} {name : String}

/-! ## The elements that have been read -/

theorem hasElement_around (stack : List OpenElement) (inner : List Node) :
    HasElement name (around stack inner) ↔
      HasElement name inner ∨ HasElement name (around stack []) := by
  induction stack generalizing inner with
  | nil => simp [around, not_hasElement_nil]
  | cons element outer induction =>
      have step (inner : List Node) :
          around (element :: outer) inner = around outer [element.toNode inner] := rfl
      rw [step, step, induction, induction [element.toNode []], OpenElement.toNode,
        OpenElement.toNode, hasElement_element, hasElement_element, hasElement_reverse,
        hasElement_reverse, hasElement_append, hasElement_append]
      simp only [not_hasElement_nil, false_or]
      tauto

theorem hasElement_around_reverse (inner : List Node) :
    HasElement name (around reader.stack inner ++ reader.top).reverse ↔
      HasElement name inner ∨ HasElement name reader.nodes := by
  have nodes : reader.nodes = (around reader.stack [] ++ reader.top).reverse := rfl
  rw [nodes, hasElement_reverse, hasElement_reverse, hasElement_append, hasElement_append,
    hasElement_around, or_assoc]

theorem hasElement_add (node : Node) :
    HasElement name (reader.add node).nodes ↔
      HasElement name [node] ∨ HasElement name reader.nodes := by
  rw [nodes_add, hasElement_around_reverse]

theorem hasElement_openElement (opened : String) (selfClosing : Bool) :
    HasElement name (reader.openElement opened selfClosing).nodes ↔
      name = opened ∨ HasElement name reader.nodes := by
  have added : HasElement name (around reader.stack [.element opened []] ++ reader.top).reverse ↔
      name = opened ∨ HasElement name reader.nodes := by
    rw [hasElement_around_reverse, hasElement_element]
    simp only [not_hasElement_nil, or_false]
  rw [openElement]
  split
  · rw [nodes_add]
    exact added
  · exact added

theorem not_hasElement_leaf {node : Node} (leaf : node.isLeaf = true) :
    ¬HasElement name [node] := by
  rintro ⟨children, within⟩
  rcases (isWithin_cons _ _).mp within with (rfl | inner) | later
  · cases leaf
  · cases node with
    | element => cases leaf
    | text => exact not_isWithin_nil inner
    | comment => exact not_isWithin_nil inner
  · exact not_isWithin_nil later

/-- An effect that adds no element but the one that it opens, and loses none. -/
theorem hasElement_apply {effect : Effect}
    (leaf : ∀ node, effect = .adds node → node.isLeaf = true) :
    HasElement name (reader.apply effect).nodes ↔
      (∃ selfClosing, effect = .opens name selfClosing) ∨ HasElement name reader.nodes := by
  cases effect with
  | keeps => simp [apply]
  | adds node =>
      rw [apply, hasElement_add]
      simp [not_hasElement_leaf (leaf node rfl)]
  | opens opened selfClosing =>
      rw [apply, hasElement_openElement]
      simp [eq_comm]
  | closes closed =>
      rw [apply, nodes_closeNamed]
      simp

/-- A closing bracket in a start tag opens the element of the tag. -/
theorem exists_step_bracket (inTag : reader.phase.opens? = some name) :
    ∃ selfClosing, reader.step '>' = (reader.openElement name selfClosing).goTo .between := by
  rcases reader with ⟨phase, stack, top⟩
  cases phase with
  | tagName letters => exact ⟨false, Option.some.inj inTag ▸ rfl⟩
  | attributes owner => exact ⟨false, Option.some.inj inTag ▸ rfl⟩
  | attributeName owner => exact ⟨false, Option.some.inj inTag ▸ rfl⟩
  | attributeGap owner => exact ⟨false, Option.some.inj inTag ▸ rfl⟩
  | valueGap owner => exact ⟨false, Option.some.inj inTag ▸ rfl⟩
  | value owner => exact ⟨false, Option.some.inj inTag ▸ rfl⟩
  | slash owner => exact ⟨true, Option.some.inj inTag ▸ rfl⟩
  | _ => cases inTag

/-- A character adds an element to the tree exactly if it is the closing bracket of a start tag. -/
theorem hasElement_step (char : Char) :
    HasElement name (reader.step char).nodes ↔
      (char = '>' ∧ reader.phase.opens? = some name) ∨ HasElement name reader.nodes := by
  rcases acts_step reader.phase char with ⟨effect, next, has⟩
  have leaf : ∀ node, effect = .adds node → node.isLeaf = true := by
    intro node added
    rcases has.adds node added with rfl | rfl <;> rfl
  have stepped : (reader.step char).nodes = (reader.apply effect).nodes := by
    rw [show reader.step char = _ from has.acts reader.stack reader.top]
    rfl
  constructor
  · intro found
    rw [stepped, hasElement_apply leaf] at found
    exact found.imp_left fun ⟨selfClosing, opened⟩ => has.opens name selfClosing opened
  · rintro (⟨rfl, inTag⟩ | found)
    · rcases exists_step_bracket inTag with ⟨selfClosing, opened⟩
      rw [opened]
      exact (hasElement_openElement name selfClosing).mpr (.inl rfl)
    · rw [stepped, hasElement_apply leaf]
      exact .inr found

def after (source : List Char) : Reader := source.foldl step start

theorem after_concat (source : List Char) (char : Char) :
    after (source ++ [char]) = (after source).step char := by
  rw [after, List.foldl_append]
  rfl

/-- An element has been read exactly if its start tag has been. -/
theorem hasElement_after (source : List Char) :
    HasElement name (after source).nodes ↔ ∃ before rest,
      source = before ++ '>' :: rest ∧ (after before).phase.opens? = some name := by
  induction source using List.reverseRecOn with
  | nil =>
      refine iff_of_false not_hasElement_nil ?_
      rintro ⟨before, rest, whole, -⟩
      exact List.append_ne_nil_of_right_ne_nil before (List.cons_ne_nil _ _) whole.symm
  | append_singleton source char induction =>
      rw [after_concat, hasElement_step, induction]
      constructor
      · rintro (⟨rfl, inTag⟩ | ⟨before, rest, rfl, inTag⟩)
        · exact ⟨source, [], rfl, inTag⟩
        · exact ⟨before, rest ++ [char], by simp, inTag⟩
      · rintro ⟨before, rest, whole, inTag⟩
        rcases List.eq_nil_or_concat rest with rfl | ⟨front, last, rfl⟩
        · rcases List.append_inj' whole rfl with ⟨rfl, same⟩
          exact .inl ⟨(List.cons.inj same).1, inTag⟩
        · rw [List.concat_eq_append, ← List.cons_append, ← List.append_assoc] at whole
          rcases List.append_inj' whole rfl with ⟨rfl, -⟩
          exact .inr ⟨before, front, rfl, inTag⟩

theorem hasElement_finish :
    HasElement name reader.finish.nodes ↔ HasElement name reader.nodes := by
  have added {node : Node} (leaf : node.isLeaf = true) :
      HasElement name (reader.add node).nodes ↔ HasElement name reader.nodes :=
    (hasElement_add node).trans (or_iff_right (not_hasElement_leaf leaf))
  rw [finish]
  split
  · exact added rfl
  · exact added rfl
  · rfl

/-! ## Start tags -/

/-- The reader takes what follows the text `before` for a start tag: a bracket, white space, the
name and what stands behind the name, where the tag goes on up to the end. -/
structure IsStartTag (before gaps name inTag : List Char) : Prop where
  opened : (after (before ++ ['<'])).phase = .opened
  areGaps : ∀ char ∈ gaps, isGap char = true
  named : ∀ char ∈ name, isNameChar char = true
  noEndTag : name.head?.any (· != '/') = true
  goesOn (taken : List Char) (isFirst : taken <+: inTag) :
    (after (before ++ '<' :: (gaps ++ (name ++ taken)))).phase.tag? = some (String.ofList name)

/-- A start tag that the next closing bracket completes. In a quoted value it would not. -/
structure IsCompleteTag (before gaps name inTag : List Char) : Prop
    extends IsStartTag before gaps name inTag where
  closes : (after (before ++ '<' :: (gaps ++ (name ++ inTag)))).phase.opens? =
    some (String.ofList name)

/-- No slash follows the bracket. -/
theorem IsStartTag.head?_ne {before gaps name inTag : List Char}
    (tag : IsStartTag before gaps name inTag) (more : List Char) :
    (gaps ++ (name ++ more)).head? ≠ some '/' := by
  have noEndTag := tag.noEndTag
  cases gaps with
  | nil =>
      cases name with
      | nil => cases noEndTag
      | cons initial letters =>
          rintro slash
          rcases Option.some.inj slash with rfl
          cases noEndTag
  | cons gap gaps =>
      rintro slash
      rcases Option.some.inj slash with rfl
      exact absurd (tag.areGaps _ List.mem_cons_self) (by decide)

theorem leads_step (reader : Reader) (char : Char) :
    Phase.Leads char reader.phase (reader.step char).phase := by
  rcases acts_step reader.phase char with ⟨effect, next, has⟩
  rw [show reader.step char = _ from has.acts reader.stack reader.top]
  exact has.leads

variable {source : List Char}

theorem exists_of_opened (opened : (after source).phase = .opened) :
    ∃ before gaps, source = before ++ '<' :: gaps ∧ (∀ char ∈ gaps, isGap char = true) ∧
      (after (before ++ ['<'])).phase = .opened := by
  induction source using List.reverseRecOn with
  | nil => cases opened
  | append_singleton source char induction =>
      have leads := leads_step (after source) char
      rw [← after_concat, opened] at leads
      generalize reached : (after source).phase = phase at leads
      cases leads with
      | bracket isBracket =>
          rcases isBracket with rfl
          exact ⟨source, [], rfl, List.forall_mem_nil _, opened⟩
      | gap isGap =>
          rcases induction reached with ⟨before, gaps, rfl, areGaps, begun⟩
          refine ⟨before, gaps ++ [char], by simp, ?_, begun⟩
          exact List.forall_mem_append.mpr ⟨areGaps, List.forall_mem_singleton.mpr isGap⟩
      | stays _ inTag => cases inTag
      | outside _ notOpened => exact absurd rfl notOpened

theorem exists_of_tagName {letters : List Char} (reads : (after source).phase = .tagName letters) :
    ∃ before gaps, source = before ++ '<' :: (gaps ++ letters.reverse) ∧
      IsStartTag before gaps letters.reverse [] := by
  induction source using List.reverseRecOn generalizing letters with
  | nil => cases reads
  | append_singleton source char induction =>
      have leads := leads_step (after source) char
      rw [← after_concat, reads] at leads
      -- the tag has just begun or goes on, so the name is what has been read behind the bracket
      have begun {before gaps : List Char} (whole : source ++ [char] =
          before ++ '<' :: (gaps ++ letters.reverse)) :
          ∀ taken, taken <+: [] → (after (before ++ '<' :: (gaps ++
            (letters.reverse ++ taken)))).phase.tag? = some (String.ofList letters.reverse) := by
        intro taken isFirst
        rw [List.prefix_nil.mp isFirst, List.append_nil, ← whole, reads]
        rfl
      generalize reached : (after source).phase = phase at leads
      cases leads with
      | begins named noSlash =>
          rcases exists_of_opened reached with ⟨before, gaps, rfl, areGaps, opened⟩
          have whole : before ++ '<' :: gaps ++ [char] =
              before ++ '<' :: (gaps ++ [char]) := by simp
          exact ⟨before, gaps, whole, opened, areGaps, List.forall_mem_singleton.mpr named,
            bne_iff_ne.mpr noSlash, begun whole⟩
      | letter named =>
          rename_i letters
          rcases induction reached with ⟨before, gaps, rfl, tag⟩
          have whole : before ++ '<' :: (gaps ++ letters.reverse) ++ [char] =
              before ++ '<' :: (gaps ++ (char :: letters).reverse) := by simp
          refine ⟨before, gaps, whole, tag.opened, tag.areGaps, ?_, ?_, begun whole⟩
          · rw [List.reverse_cons]
            exact List.forall_mem_append.mpr ⟨tag.named, List.forall_mem_singleton.mpr named⟩
          · have noEndTag := tag.noEndTag
            rw [List.reverse_cons]
            cases first : letters.reverse with
            | nil => simp [first] at noEndTag
            | cons initial rest => simpa [first] using noEndTag
      | stays _ _ named => exact absurd rfl (named _)
      | outside noTag => cases noTag

/-- What is read as a start tag with a name begins with the name. -/
theorem exists_of_tag? {name : String} (inTag : (after source).phase.tag? = some name) :
    ∃ before gaps inside, source = before ++ '<' :: (gaps ++ (name.toList ++ inside)) ∧
      IsStartTag before gaps name.toList inside := by
  induction source using List.reverseRecOn with
  | nil => cases inTag
  | append_singleton source char induction =>
      have leads := leads_step (after source) char
      rw [← after_concat] at leads
      have atName {letters : List Char}
          (reads : (after (source ++ [char])).phase = .tagName letters) :
          ∃ before gaps inside, source ++ [char] =
            before ++ '<' :: (gaps ++ (name.toList ++ inside)) ∧
              IsStartTag before gaps name.toList inside := by
        rcases exists_of_tagName reads with ⟨before, gaps, whole, tag⟩
        rw [reads] at inTag
        rcases Option.some.inj inTag with rfl
        rw [String.toList_ofList]
        exact ⟨before, gaps, [], by rw [List.append_nil, whole], tag⟩
      generalize reached : (after source).phase = phase at leads
      generalize reads : (after (source ++ [char])).phase = next at leads
      cases leads with
      | bracket => rw [reads] at inTag; cases inTag
      | gap => rw [reads] at inTag; cases inTag
      | begins => exact atName reads
      | letter => exact atName reads
      | stays outer inner =>
          rw [reads, inner] at inTag
          rcases Option.some.inj inTag with rfl
          rcases induction (reached ▸ outer) with ⟨before, gaps, inside, rfl, tag⟩
          refine ⟨before, gaps, inside ++ [char], by simp, tag.opened, tag.areGaps, tag.named,
            tag.noEndTag, fun taken isFirst => ?_⟩
          rcases List.prefix_concat_iff.mp isFirst with rfl | earlier
          · rw [String.ofList_toList, ← inner, ← reads]
            simp
          · exact tag.goesOn taken earlier
      | outside noTag => rw [reads, noTag] at inTag; cases inTag

end Reader

/-- The elements of the tree are those whose start tags are read up to a closing bracket. -/
theorem hasElement_read_iff (name : String) (source : List Char) :
    HasElement name (read source) ↔ ∃ before gaps inTag rest,
      source = before ++ '<' :: (gaps ++ (name.toList ++ (inTag ++ '>' :: rest))) ∧
        Reader.IsCompleteTag before gaps name.toList inTag := by
  rw [show read source = (Reader.after source).finish.nodes from rfl, Reader.hasElement_finish,
    Reader.hasElement_after]
  constructor
  · rintro ⟨front, rest, rfl, opens⟩
    rcases Reader.exists_of_tag? (Phase.tag?_of_opens? opens) with
      ⟨before, gaps, inTag, rfl, tag⟩
    refine ⟨before, gaps, inTag, rest, by simp, tag, ?_⟩
    rw [String.ofList_toList]
    exact opens
  · rintro ⟨before, gaps, inTag, rest, rfl, tag⟩
    have opens := tag.closes
    rw [String.ofList_toList] at opens
    exact ⟨_, rest, by simp, opens⟩

end ChatMarkup.Markup
