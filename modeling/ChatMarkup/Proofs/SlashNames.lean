import ChatMarkup.Proofs.OpenedElements
import ChatMarkup.Proofs.TagExpansion

/-!
Names that end with a slash. The reader takes a slash for part of a name, and expanding the
self-closing tags of a page takes it off where the tag is spelled as most authors spell it: the name
follows its bracket, begins with a letter and goes on with letters, digits, colons and hyphens, and
the slash is the only one and stands in front of the closing bracket. Names may be spelled in other
ways, and with these the slash is still read as part of the name.
-/

namespace ChatMarkup.Source

open Text Markup

variable {page front back : List Char}

/-! ## Where the expanded page comes from -/

theorem exists_of_append_eq_append_cons {stop : Char} {text rest : List Char} (free : stop ∉ text)
    (whole : text ++ rest = front ++ stop :: back) :
    ∃ inner, front = text ++ inner ∧ rest = inner ++ stop :: back := by
  rcases List.append_eq_append_iff.mp whole with ⟨inner, later, rest_eq⟩ | ⟨inner, rfl, rest_eq⟩
  · exact ⟨inner, later, rest_eq⟩
  · cases inner with
    | nil => exact ⟨[], by simp, rest_eq.symm⟩
    | cons char inner =>
        rcases (List.cons.inj rest_eq).1 with rfl
        exact absurd (List.mem_append_right _ List.mem_cons_self) free

/-- An expanded tag has its opening bracket, and perhaps the one of an end tag. -/
theorem SelfClosingTag.bracket_of_expanded_eq (tag : SelfClosingTag)
    (whole : tag.expanded = front ++ '<' :: back) : front = [] ∨ back.head? = some '/' := by
  have attributesFree : '<' ∉ trimEnd tag.attributes := by
    rcases @exists_trimEndWhere_append isBlank tag.attributes with ⟨blanks, attributes, -⟩
    have opensNone := tag.opensNone
    rw [attributes] at opensNone
    exact fun member => opensNone (List.mem_append_left _ member)
  have nameFree : '<' ∉ tag.name := fun member => tag.bracket_notMem (List.mem_append_left _ member)
  have startFree : '<' ∉ tag.name ++ (trimEnd tag.attributes ++ ['>']) := by
    simp [nameFree, attributesFree]
  cases front with
  | nil => exact .inl rfl
  | cons char front =>
      rw [expanded, spelledOut, List.cons_append, List.cons_append, List.cons.injEq] at whole
      rcases exists_of_append_eq_append_cons startFree whole.2 with ⟨inner, -, ending⟩
      split at ending
      · exact absurd ending (by simp)
      · cases inner with
        | nil =>
            rw [List.nil_append, List.cons.injEq] at ending
            exact .inr (ending.2 ▸ rfl)
        | cons first inner =>
            have endFree : '<' ∉ '/' :: (tag.name ++ ['>']) := by simp [nameFree]
            rw [List.cons_append, List.cons.injEq] at ending
            exact absurd (ending.2 ▸ List.mem_append_right _ List.mem_cons_self) endFree

/-- An opening bracket that begins no end tag has been copied from the page, and what stands in
front of it comes from what stands in front of it there. -/
theorem exists_of_expandSelfClosing_eq (whole : expandSelfClosing page = front ++ '<' :: back)
    (noEndTag : back.head? ≠ some '/') :
    ∃ before after, page = before ++ '<' :: after ∧ expandSelfClosing before = front := by
  have expands := expands_expandSelfClosing page
  generalize expandSelfClosing page = result at whole expands
  induction expands generalizing front with
  | nil => cases List.append_ne_nil_of_right_ne_nil front (List.cons_ne_nil _ _) whole.symm
  | @tag tag rest result expands induction =>
      have later (inner : List Char) (inRest : result = inner ++ '<' :: back)
          (passed : front = tag.expanded ++ inner) :
          ∃ before after, tag.source ++ rest = before ++ '<' :: after ∧
            expandSelfClosing before = front := by
        rcases induction inRest with ⟨before, after, rfl, rfl⟩
        exact ⟨tag.source ++ before, after, (List.append_assoc ..).symm,
          (tag.expandSelfClosing_source_append before).trans passed.symm⟩
      rcases List.append_eq_append_iff.mp whole with ⟨inner, passed, inRest⟩ | ⟨inner, inTag, left⟩
      · exact later inner inRest passed
      · cases inner with
        | nil =>
            rw [List.append_nil] at inTag
            exact later [] left.symm (by rw [inTag, List.append_nil])
        | cons char inner =>
            rw [List.cons_append, List.cons.injEq] at left
            rcases left with ⟨rfl, rfl⟩
            rcases tag.bracket_of_expanded_eq inTag with rfl | endTag
            · exact ⟨[], _, rfl, rfl⟩
            · rw [List.head?_append, endTag] at noEndTag
              exact absurd rfl noEndTag
  | @copy char rest result noTag expands induction =>
      cases front with
      | nil =>
          rw [List.nil_append, List.cons.injEq] at whole
          exact ⟨[], rest, by rw [whole.1]; rfl, rfl⟩
      | cons first front =>
          rw [List.cons_append, List.cons.injEq] at whole
          rcases whole with ⟨rfl, inRest⟩
          rcases induction inRest with ⟨before, after, rfl, rfl⟩
          refine ⟨char :: before, after, rfl, expandSelfClosing_cons fun tag begins => ?_⟩
          exact noTag tag (begins.trans (List.prefix_append (char :: before) _))

/-- Text without opening brackets has been copied from the page. -/
theorem exists_of_expandSelfClosing_eq_append {text : List Char} (free : '<' ∉ text)
    (whole : expandSelfClosing page = text ++ back) :
    ∃ tail, page = text ++ tail ∧ expandSelfClosing tail = back := by
  induction text generalizing page with
  | nil => exact ⟨page, rfl, whole⟩
  | cons char text induction =>
      rw [List.mem_cons, not_or] at free
      have expands := expands_expandSelfClosing page
      generalize expandSelfClosing page = result at whole expands
      cases expands with
      | nil => cases whole
      | tag tag => exact absurd (List.cons.inj whole).1 free.1
      | copy noTag expands =>
          rw [List.cons_append, List.cons.injEq] at whole
          rcases whole with ⟨rfl, inRest⟩
          rcases induction free.2 (expands.eq_expandSelfClosing ▸ inRest) with ⟨tail, rfl, same⟩
          exact ⟨tail, rfl, same⟩

/-! ## Tags that keep their slash -/

/-- The name of an expanded tag ends in front of white space or of the closing bracket. -/
theorem SelfClosingTag.expanded_eq (tag : SelfClosingTag) :
    ∃ stop rest, tag.expanded = '<' :: (tag.name ++ stop :: rest) ∧ isNameChar stop = false := by
  rcases @exists_trimEndWhere_append isBlank tag.attributes with ⟨blanks, attributes, -⟩
  have separated := tag.separated
  rw [attributes] at separated
  rw [expanded, spelledOut, trimEnd]
  generalize (if isVoidName (String.ofList tag.name) then [] else
    '<' :: '/' :: (tag.name ++ ['>'])) = endTag
  cases kept : trimEndWhere isBlank tag.attributes with
  | nil => exact ⟨'>', endTag, by simp, by decide⟩
  | cons first more =>
      rw [kept] at separated
      have isBlankFirst : isBlank first = true := separated
      refine ⟨first, more ++ '>' :: endTag, by simp, ?_⟩
      rw [Bool.eq_false_iff]
      intro named
      rw [isBlank_of_isNameChar named] at isBlankFirst
      cases isBlankFirst

/-- What follows a bracket is spelled as expanding wants it: nothing stands between the bracket and
the name, and nothing between the slash of the name and the closing bracket. -/
def isGlued (gaps name tail : List Char) : Bool :=
  gaps.isEmpty && isSlashName name.dropLast && tail.head? == some '>'

section Spellings

variable {gaps name tail known rest : List Char}

/-- A name with a slash is longer than the name of a tag that begins at the same bracket. -/
theorem exists_of_append_eq_isSlashName (areGaps : ∀ char ∈ gaps, isGap char = true)
    (slash : '/' ∈ name) (isName : isSlashName known = true)
    (whole : gaps ++ (name ++ tail) = known ++ rest) :
    gaps = [] ∧ ∃ char more, name = known ++ char :: more ∧ rest = char :: (more ++ tail) := by
  rcases exists_of_isSlashName isName with ⟨initial, letters, rfl, letter, nameChars⟩
  have noSlash : '/' ∉ initial :: letters := fun member => absurd (nameChars _ member) (by decide)
  have noGaps : gaps = [] := by
    cases gaps with
    | nil => rfl
    | cons gap gaps =>
        rw [List.cons_append, List.cons_append, List.cons.injEq] at whole
        have named := (isNameChar_of_isTagNameChar (nameChars _ List.mem_cons_self)).1
        have isGapInitial := areGaps gap List.mem_cons_self
        rw [whole.1, Reader.isGap_of_isNameChar named] at isGapInitial
        cases isGapInitial
  rcases noGaps with rfl
  rw [List.nil_append] at whole
  refine ⟨rfl, ?_⟩
  rcases List.append_eq_append_iff.mp whole with ⟨more, longer, -⟩ | ⟨more, rfl, left⟩
  · exact absurd (longer ▸ List.mem_append_left _ slash) noSlash
  · cases more with
    | nil => exact absurd (by simpa using slash) noSlash
    | cons char more => exact ⟨char, more, rfl, left⟩

/-- A tag whose name ends with a slash is a self-closing tag exactly if it is glued. -/
theorem exists_tag_iff_isGlued (areGaps : ∀ char ∈ gaps, isGap char = true)
    (named : ∀ char ∈ name, isNameChar char = true) (slash : name.getLast? = some '/') :
    (∃ tag : SelfClosingTag, tag.source <+: '<' :: (gaps ++ (name ++ tail))) ↔
      isGlued gaps name tail = true := by
  constructor
  · rintro ⟨tag, after, whole⟩
    have afterBracket : gaps ++ (name ++ tail) =
        tag.name ++ (tag.attributes ++ '/' :: '>' :: after) := by
      simpa [SelfClosingTag.source] using (List.cons.inj whole).2.symm
    rcases exists_of_append_eq_isSlashName areGaps (List.mem_of_getLast? slash) tag.isName
      afterBracket with ⟨rfl, char, more, rfl, left⟩
    rw [List.forall_mem_append, List.forall_mem_cons] at named
    have separated := tag.separated
    -- a slash follows the name of the tag, and no white space, since both belong to the longer name
    cases attributes : tag.attributes with
    | cons first inside =>
        rw [attributes] at separated left
        rcases (List.cons.inj left).1 with rfl
        have blank : isBlank first = true := separated
        rw [isBlank_of_isNameChar named.2.1] at blank
        cases blank
    | nil =>
        rw [attributes, List.nil_append, List.cons.injEq] at left
        rcases left with ⟨rfl, left⟩
        cases more with
        | nil =>
            rw [List.nil_append] at left
            simp [isGlued, tag.isName, ← left]
        | cons bracket more =>
            rcases (List.cons.inj left).1 with rfl
            exact absurd (named.2.2 '>' List.mem_cons_self) (by decide)
  · intro glued
    simp only [isGlued, Bool.and_eq_true, List.isEmpty_iff, beq_iff_eq] at glued
    rcases glued with ⟨⟨rfl, isName⟩, bracket⟩
    rcases List.head?_eq_some_iff.mp bracket with ⟨after, rfl⟩
    rcases List.getLast?_eq_some_iff.mp slash with ⟨stem, rfl⟩
    rw [List.dropLast_concat] at isName
    exact ⟨⟨stem, [], isName, List.not_mem_nil, List.not_mem_nil, rfl⟩, after,
      by simp [SelfClosingTag.source]⟩

theorem bracket_notMem (areGaps : ∀ char ∈ gaps, isGap char = true)
    (named : ∀ char ∈ name, isNameChar char = true) : '<' ∉ gaps ++ name := by
  rw [List.mem_append, not_or]
  exact ⟨fun member => absurd (areGaps _ member) (by decide),
    fun member => absurd (named _ member) (by decide)⟩

/-- A name with a slash that is read in the expanded page is spelled so in the page. -/
theorem exists_of_expandSelfClosing_bracket {after : List Char}
    (areGaps : ∀ char ∈ gaps, isGap char = true) (named : ∀ char ∈ name, isNameChar char = true)
    (slash : '/' ∈ name)
    (whole : expandSelfClosing ('<' :: after) = '<' :: (gaps ++ (name ++ back))) :
    (∀ tag : SelfClosingTag, ¬tag.source <+: '<' :: after) ∧
      ∃ tail, after = gaps ++ (name ++ tail) ∧ expandSelfClosing tail = back := by
  have noTag (tag : SelfClosingTag) : ¬tag.source <+: '<' :: after := by
    rintro ⟨rest, begins⟩
    rcases tag.expanded_eq with ⟨stop, more, expanded, notNamed⟩
    rw [← begins, tag.expandSelfClosing_source_append, expanded, List.cons_append,
      List.cons.injEq, List.append_assoc] at whole
    rcases exists_of_append_eq_isSlashName areGaps slash tag.isName whole.2.symm with
      ⟨-, char, letters, longer, ending⟩
    rcases (List.cons.inj ending).1 with rfl
    rw [named stop (longer ▸ List.mem_append_right _ List.mem_cons_self)] at notNamed
    cases notNamed
  rw [expandSelfClosing_cons noTag, List.cons.injEq, ← List.append_assoc] at whole
  rcases exists_of_expandSelfClosing_eq_append (bracket_notMem areGaps named) whole.2 with
    ⟨tail, rfl, same⟩
  exact ⟨noTag, tail, List.append_assoc .., same⟩

end Spellings

/-- The elements of an expanded page whose names end with a slash are those whose start tags are so
spelled in the page, and not as expanding wants it. Such a tag may have white space in front of its
name, or anything but the closing bracket behind the slash; or the name has another slash in it, an
underscore or a plus sign, or begins with no letter. -/
theorem slashName_read_expandSelfClosing (page : List Char) {name : String}
    (slash : name.toList.getLast? = some '/') :
    Node.HasElement name (read (expandSelfClosing page)) ↔ ∃ before gaps tail inTag rest,
      page = before ++ '<' :: (gaps ++ (name.toList ++ tail)) ∧
        isGlued gaps name.toList tail = false ∧
        expandSelfClosing tail = inTag ++ '>' :: rest ∧
        Reader.IsCompleteTag (expandSelfClosing before) gaps name.toList inTag := by
  rw [hasElement_read_iff]
  constructor
  · rintro ⟨front, gaps, inTag, rest, whole, tag⟩
    rcases exists_of_expandSelfClosing_eq whole (tag.head?_ne _) with ⟨before, after, rfl, rfl⟩
    rw [expandSelfClosing_append_open, List.append_cancel_left_eq] at whole
    rcases exists_of_expandSelfClosing_bracket tag.areGaps tag.named
      (List.mem_of_getLast? slash) whole with ⟨noTag, tail, rfl, expanded⟩
    refine ⟨before, gaps, tail, inTag, rest, rfl, ?_, expanded, tag⟩
    rw [Bool.eq_false_iff]
    intro glued
    exact ((exists_tag_iff_isGlued tag.areGaps tag.named slash).mpr glued).elim noTag
  · rintro ⟨before, gaps, tail, inTag, rest, rfl, loose, expanded, tag⟩
    refine ⟨_, gaps, inTag, rest, ?_, tag⟩
    have noTag (other : SelfClosingTag) :
        ¬other.source <+: '<' :: (gaps ++ (name.toList ++ tail)) := by
      intro begins
      rw [(exists_tag_iff_isGlued tag.areGaps tag.named slash).mp ⟨other, begins⟩] at loose
      cases loose
    rw [expandSelfClosing_append_open, expandSelfClosing_cons noTag, ← List.append_assoc,
      expandSelfClosing_append_of_free (bracket_notMem tag.areGaps tag.named), expanded,
      List.append_assoc]

theorem slashName_read_doubled :
    Node.HasElement "br//" (read (expandSelfClosing "a<br//>b".toList)) := by
  refine (slashName_read_expandSelfClosing "a<br//>b".toList (by decide)).mpr
    ⟨['a'], [], ['>', 'b'], [], ['b'], by decide, by decide, by decide +kernel, ?_⟩
  refine ⟨⟨rfl, List.forall_mem_nil _, List.all_eq_true.mp (by decide), by decide,
    fun taken isFirst => ?_⟩, rfl⟩
  rw [List.prefix_nil.mp isFirst]
  rfl

/-- Not every self-closing tag is expanded. This one stays open, and swallows the end of the
paragraph it is in. -/
theorem slashName_read_underscored :
    ¬∀ (page : List Char) (name : String), Node.HasElement name (read (expandSelfClosing page)) →
      name.toList.getLast? ≠ some '/' := by
  intro noSlash
  have nodes : read (expandSelfClosing "<p>a<x_y/>b</p>c".toList) =
      [.element "p" [.text ['a'], .element "x_y/" [.text ['b'], .text ['c']]]] := by
    decide +kernel
  have found : Node.HasElement "x_y/" (read (expandSelfClosing "<p>a<x_y/>b</p>c".toList)) := by
    rw [nodes]
    exact ⟨_, .inside List.mem_cons_self (.top (List.mem_cons_of_mem _ List.mem_cons_self))⟩
  exact noSlash _ _ found (by decide)

end ChatMarkup.Source
