import ChatMarkup.Proofs.NestedReading
import ChatMarkup.Proofs.SteadyPage
import ChatMarkup.Proofs.WrittenTrees

/-!
Nested trees are read back without misnesting, when the tags that are written are such that both
readers see the same names in them. Elements that the forgiving reader never closes take in what
comes after them, which does no harm: none of them is closed by a start tag.
-/

namespace ChatMarkup.Document

open Markup Source

/-! ## Trees that are read as they are written -/

/-- Elements that are written without an end tag, although the forgiving reader waits for one. -/
def endless : List String := ["basefont", "bgsound", "frame"]

namespace Tree

mutual

/-- Texts that are written as they are hold no tag, comments end where they should, and names are
names to both readers. -/
def isReadable (raw : Bool) : Tree → Bool
  | .text content => !raw || !content.contains '<'
  | .comment content => Reader.closesComment .dashes (expandSelfClosing (content ++ "-->".toList))
  | .doctype name => !name.toList.contains '<'
  | .element owner children =>
    owner.isHtml && Reader.isReadName owner.name.toList &&
      lowercaseName owner.name == owner.name &&
      owner.attributes.all (fun item => Reader.isReadName item.name.toList) &&
      (owner.isAnyOf voidNames || owner.isNamed "template" ||
        areReadable (owner.isAnyOf rawNames) children)

def areReadable (raw : Bool) : List Tree → Bool
  | [] => true
  | tree :: rest => tree.isReadable raw && areReadable raw rest

end

structure ReadableTag (owner : Element) : Prop where
  html : owner.isHtml = true
  isName : Reader.isReadName owner.name.toList = true
  lower : lowercaseName owner.name = owner.name
  attributes : ∀ item ∈ owner.attributes, Reader.isReadName item.name.toList = true

theorem isReadable_element {raw : Bool} {owner : Element} {children : List Tree}
    (readable : (element owner children).isReadable raw = true) :
    ReadableTag owner ∧ (owner.isAnyOf voidNames = true ∨ owner.isNamed "template" = true ∨
      areReadable (owner.isAnyOf rawNames) children = true) := by
  rw [isReadable] at readable
  simp only [Bool.and_eq_true, Bool.or_eq_true, beq_iff_eq, List.all_eq_true, or_assoc]
    at readable
  rcases readable with ⟨⟨⟨⟨html, isName⟩, lower⟩, attributes⟩, content⟩
  exact ⟨⟨html, isName, lower, attributes⟩, content⟩

/-! ## Tags that are written -/

theorem quote_notMem_escape (value : List Char) : '"' ∉ value.flatMap (escape true) := by
  intro member
  rcases List.mem_flatMap.mp member with ⟨char, -, inEscape⟩
  simp only [escape, if_true] at inEscape
  split at inEscape
  · exact absurd inEscape (by decide)
  split at inEscape
  · exact absurd inEscape (by decide)
  split at inEscape
  · exact absurd inEscape (by decide)
  · rename_i different
    exact different (List.mem_singleton.mp inEscape).symm

theorem unquoted_writeAttribute {item : Attribute}
    (isName : Reader.isReadName item.name.toList = true) (rest : List Char) :
    unquoted false (writeAttribute item ++ rest) =
      ' ' :: (item.name.toList ++ ['=', '"', '"']) ++ unquoted false rest := by
  have nameFree : '"' ∉ ' ' :: (item.name.toList ++ ['=']) := by
    simpa using Reader.notMem_of_isReadName isName (by decide)
  have valueFree := quote_notMem_escape item.value
  have parts : writeAttribute item ++ rest = ' ' :: (item.name.toList ++ ['=']) ++
      '"' :: (item.value.flatMap (escape true) ++ '"' :: rest) := by
    simp [writeAttribute]
  have value : unquoted false ('"' :: (item.value.flatMap (escape true) ++ '"' :: rest)) =
      '"' :: '"' :: unquoted false rest := by
    rw [unquoted, if_pos rfl, Bool.not_false, unquoted_append, unquoted_true_of_free valueFree,
      endsInside_of_free valueFree, unquoted, if_pos rfl]
    rfl
  rw [parts, unquoted_append, unquoted_false_of_free nameFree, endsInside_of_free nameFree, value]
  simp

theorem unquoted_writeAttributes {attributes : List Attribute}
    (isNames : ∀ item ∈ attributes, Reader.isReadName item.name.toList = true) :
    unquoted false (attributes.flatMap writeAttribute ++ ['>']) =
      Reader.spelled (attributes.map fun item => item.name.toList) ++ ['>'] := by
  induction attributes with
  | nil => rfl
  | cons item rest induction =>
      rw [List.forall_mem_cons] at isNames
      rw [List.flatMap_cons, List.append_assoc, unquoted_writeAttribute isNames.1,
        induction isNames.2, List.map_cons, Reader.spelled, Reader.spelled, List.flatMap_cons,
        List.append_assoc]

theorem unquoted_writeStartTag {owner : Element} (readable : ReadableTag owner) :
    unquoted false (writeStartTag owner) = '<' :: owner.name.toList ++
      (Reader.spelled (owner.attributes.map fun item => item.name.toList) ++ ['>']) := by
  have free : '"' ∉ '<' :: owner.name.toList := by
    simpa using Reader.notMem_of_isReadName readable.isName (by decide)
  rw [writeStartTag, List.append_assoc, unquoted_append, unquoted_false_of_free free,
    endsInside_of_free free, unquoted_writeAttributes readable.attributes]

theorem slash_notMem_writeStartTag {owner : Element} (readable : ReadableTag owner) :
    '/' ∉ unquoted false (writeStartTag owner) := by
  have noSlash : ∀ {name : List Char}, Reader.isReadName name = true → '/' ∉ name :=
    fun isName member => ((Reader.isReadName_iff.mp isName).2 _ member).2 rfl
  rw [unquoted_writeStartTag readable, Reader.spelled, List.flatMap_map]
  intro member
  simp only [List.mem_append, List.mem_cons, List.mem_flatMap, List.not_mem_nil, or_false]
    at member
  rcases member with (bracket | inName) | ⟨item, inAttributes, space | inName | sign | quote | quote⟩
    | bracket
  · cases bracket
  · exact noSlash readable.isName inName
  · cases space
  · exact noSlash (readable.attributes item inAttributes) inName
  all_goals contradiction

theorem expandSelfClosing_writeStartTag (owner : Element) (after : List Char) :
    expandSelfClosing (writeStartTag owner ++ after) =
      expandSelfClosing (writeStartTag owner) ++ expandSelfClosing after := by
  rw [writeStartTag, List.append_assoc]
  exact expandSelfClosing_append_bracket _ after

theorem foldl_step_writeStartTag {owner : Element} (readable : ReadableTag owner)
    {reader : Markup.Reader} (atBreak : reader.AtBreak) :
    (expandSelfClosing (writeStartTag owner)).foldl Markup.Reader.step reader =
      reader.settle.openElement owner.name false := by
  have outside := unquoted_expandSelfClosing (slash_notMem_writeStartTag readable)
  rw [unquoted_writeStartTag readable] at outside
  refine Reader.foldl_step_tag readable.isName ?_ outside atBreak
  intro name member
  rcases List.mem_map.mp member with ⟨item, inAttributes, rfl⟩
  exact readable.attributes item inAttributes

theorem expandSelfClosing_writeEndTag {owner : Element} (readable : ReadableTag owner)
    (after : List Char) :
    expandSelfClosing (writeEndTag owner ++ after) =
      Node.endTag owner.name ++ expandSelfClosing after := by
  have free : '<' ∉ '/' :: (owner.name.toList ++ ['>']) := by
    simpa using Reader.notMem_of_isReadName readable.isName (by decide)
  exact expandSelfClosing_bracket_append (by decide) free after

theorem foldl_step_writeEndTag {owner : Element} (readable : ReadableTag owner)
    {reader : Markup.Reader} (atBreak : reader.AtBreak) :
    (Node.endTag owner.name).foldl Markup.Reader.step reader =
      reader.settle.closeNamed owner.name :=
  Markup.Reader.foldl_step_endTag
    (Reader.notMem_of_isReadName readable.isName (by decide : isNameChar '>' = false)) atBreak

/-! ## Reading on -/

/-- The reader is where it was, or in an element that it will never close. -/
structure ReadsOn (before after : Markup.Reader) : Prop where
  atBreak : after.AtBreak
  nested : after.Nested
  opened : after.names = before.names ∨ ∃ name ∈ after.names.head?, name ∈ endless

def TakenBy (reader : Markup.Reader) (tree : Tree) : Prop :=
  ∀ name ∈ reader.names.head?, name ∈ endless ∨ tree.FitsIn (lowercaseName name)

variable {before reader after : Markup.Reader}

theorem ReadsOn.takenBy (readsOn : ReadsOn before after) {tree : Tree}
    (taken : tree.TakenBy before) : tree.TakenBy after := by
  intro name latest
  rcases readsOn.opened with same | ⟨other, latestToo, isEndless⟩
  · rw [same] at latest
    exact taken name latest
  · rw [Option.mem_unique latest latestToo]
    exact .inl isEndless

theorem ReadsOn.trans (first : ReadsOn before reader) (second : ReadsOn reader after) :
    ReadsOn before after where
  atBreak := second.atBreak
  nested := second.nested
  opened := by
    rcases second.opened with same | isEndless
    · rw [same]
      exact first.opened
    · exact .inr isEndless

theorem closesParent_endless {name : String} (isEndless : name ∈ endless) (child : String) :
    closesParent (lowercaseName name) child = false := by
  have all : ∀ name ∈ endless, lowercaseName name = name := by decide
  rw [all name isEndless]
  rcases List.mem_cons.mp isEndless with rfl | isEndless
  · rfl
  rcases List.mem_cons.mp isEndless with rfl | isEndless
  · rfl
  cases List.mem_singleton.mp isEndless
  rfl

theorem admits_element {owner : Element} {children : List Tree} (readable : ReadableTag owner)
    (taken : (element owner children).TakenBy reader) (nodes : List Node) :
    reader.Admits (.element owner.name nodes) := by
  intro name latest
  rw [misnestedIn]
  rcases taken name latest with isEndless | fits
  · exact closesParent_endless isEndless _
  · rw [readable.lower]
    exact fits

theorem readsOn_text {content : List Char} (free : '<' ∉ content) (atBreak : reader.AtBreak)
    (nested : reader.Nested) : ReadsOn reader (content.foldl Markup.Reader.step reader) := by
  rcases atBreak.exists_foldl_step free with ⟨phase, read, stillAtBreak⟩
  rw [read]
  exact ⟨stillAtBreak, nested, .inl rfl⟩

theorem readsOn_comment {source : List Char}
    (closes : Reader.closesComment .dashes source = true) (atBreak : reader.AtBreak)
    (nested : reader.Nested) :
    ReadsOn reader (('<' :: '!' :: '-' :: '-' :: source).foldl Markup.Reader.step reader) := by
  rw [Reader.foldl_step_comment closes atBreak]
  refine ⟨.inl ((Markup.Reader.phase_add _ _).trans atBreak.phase_settle), ?_, .inl ?_⟩
  · exact nested.settle.add rfl fun _ _ => rfl
  · rw [Reader.names_add, Reader.names_settle]

theorem readsOn_doctype {name : List Char} (free : '<' ∉ name) (atBreak : reader.AtBreak)
    (nested : reader.Nested) :
    ReadsOn reader
      (("<!DOCTYPE ".toList ++ (name ++ ['>'])).foldl Markup.Reader.step reader) := by
  rcases Reader.exists_foldl_step_doctype free atBreak with ⟨phase, read, stillAtBreak⟩
  rw [read]
  exact ⟨stillAtBreak, nested.settle, .inl (Reader.names_settle reader)⟩

/-- An element without an end tag. -/
theorem readsOn_void {owner : Element} {children : List Tree} (readable : ReadableTag owner)
    (void : owner.isAnyOf voidNames = true) (taken : (element owner children).TakenBy reader)
    (atBreak : reader.AtBreak) (nested : reader.Nested) :
    ReadsOn reader (reader.settle.openElement owner.name false) := by
  have admits : reader.settle.Admits (.element owner.name []) := by
    rw [Reader.Admits, Reader.names_settle]
    exact admits_element readable taken []
  rw [Markup.Reader.openElement, Bool.false_or]
  split
  · refine ⟨.inl ((Markup.Reader.phase_add _ _).trans atBreak.phase_settle),
      nested.settle.add rfl admits, .inl ?_⟩
    rw [Reader.names_add, Reader.names_settle]
  · rename_i opens
    have all : ∀ name ∈ voidNames, name ∈ contentless ∨ name ∈ endless := by decide
    have isEndless := (all _ (Element.name_mem_of_isAnyOf void)).resolve_left fun contentless =>
      opens (List.contains_iff_mem.mpr contentless)
    exact ⟨.inl atBreak.phase_settle, nested.settle.push admits, .inr ⟨_, rfl, isEndless⟩⟩

/-- An element with an end tag, which closes it unless something in it was left open. -/
theorem readsOn_element {owner : Element} {children : List Tree} (readable : ReadableTag owner)
    (noVoid : owner.isAnyOf voidNames = false) (taken : (element owner children).TakenBy reader)
    (atBreak : reader.AtBreak) (nested : reader.Nested) {inner : List Char}
    (reads : ∀ opened : Markup.Reader, opened.AtBreak → opened.Nested →
      opened.names.head? = some owner.name →
        ReadsOn opened (inner.foldl Markup.Reader.step opened)) :
    ReadsOn reader ((inner ++ Node.endTag owner.name).foldl Markup.Reader.step
      (reader.settle.openElement owner.name false)) := by
  rw [Element.isAnyOf_eq readable.html, Bool.eq_false_iff, ne_eq, List.contains_iff_mem] at noVoid
  have waits : ¬contentless.contains owner.name = true := fun member =>
    noVoid ((by decide : contentless ⊆ voidNames) (List.contains_iff_mem.mp member))
  have admits : reader.settle.Admits (.element owner.name []) := by
    rw [Reader.Admits, Reader.names_settle]
    exact admits_element readable taken []
  have opened : reader.settle.openElement owner.name false = reader.settle.push owner.name :=
    if_neg waits
  have readsOn := reads (reader.settle.push owner.name) (.inl atBreak.phase_settle)
    (nested.settle.push admits) rfl
  rw [opened, List.foldl_append, foldl_step_writeEndTag readable readsOn.atBreak]
  refine ⟨.inl ((Reader.phase_closeNamed _ _).trans readsOn.atBreak.phase_settle),
    readsOn.nested.settle.closeNamed _, ?_⟩
  rcases readsOn.opened with same | ⟨latest, found, isEndless⟩
  · left
    apply Reader.names_closeNamed
    rw [Reader.names_settle, same, ← Reader.names_settle reader]
    rfl
  · right
    rw [← Reader.names_settle] at found
    have different : latest ≠ owner.name := by
      rintro rfl
      exact noVoid ((by decide : endless ⊆ voidNames) isEndless)
    rw [Reader.closeNamed_of_ne found different]
    exact ⟨latest, found, isEndless⟩

/-! ## Reading what is written -/

/-- What is written in front of a page is prepared on its own, and a reader that takes it reads
on. -/
def IsRead (takes : Markup.Reader → Prop) (write : List Char → List Char) : Prop :=
  ∃ written, (∀ after, expandSelfClosing (write after) = written ++ expandSelfClosing after) ∧
    ∀ reader : Markup.Reader, reader.AtBreak → reader.Nested → takes reader →
      ReadsOn reader (written.foldl Markup.Reader.step reader)

theorem isRead_text {content : List Char} (free : '<' ∉ content) (takes : Markup.Reader → Prop) :
    IsRead takes (content ++ ·) :=
  ⟨content, expandSelfClosing_append_of_free free,
    fun _ atBreak nested _ => readsOn_text free atBreak nested⟩

theorem isRead_comment {content : List Char}
    (closes : Reader.closesComment .dashes (expandSelfClosing (content ++ "-->".toList)) = true)
    (takes : Markup.Reader → Prop) :
    IsRead takes fun after => "<!--".toList ++ content ++ "-->".toList ++ after := by
  refine ⟨'<' :: '!' :: '-' :: '-' :: expandSelfClosing (content ++ "-->".toList), fun after => ?_,
    fun _ atBreak nested _ => readsOn_comment closes atBreak nested⟩
  have comment := expandSelfClosing_append_bracket (content ++ ['-', '-']) after
  have begun := expandSelfClosing_bracket_append (by decide : '!'.isAlpha = false)
    (by decide : '<' ∉ ['!', '-', '-']) (content ++ ['-', '-'] ++ '>' :: after)
  rw [comment] at begun
  simpa using begun

theorem isRead_doctype {name : List Char} (free : '<' ∉ name) (takes : Markup.Reader → Prop) :
    IsRead takes fun after => "<!DOCTYPE ".toList ++ name ++ '>' :: after := by
  refine ⟨"<!DOCTYPE ".toList ++ (name ++ ['>']), fun after => ?_,
    fun _ atBreak nested _ => readsOn_doctype free atBreak nested⟩
  have tagFree : '<' ∉ '!' :: ("DOCTYPE ".toList ++ (name ++ ['>'])) := by
    simpa using free
  have apart := expandSelfClosing_bracket_append (by decide) tagFree after
  simpa using apart

/-- An element whose content is read. -/
theorem isRead_element {owner : Element} {children : List Tree} (readable : ReadableTag owner)
    (noVoid : owner.isAnyOf voidNames = false) {content : List Char → List Char}
    (read : IsRead (fun reader => reader.names.head? = some owner.name) content) :
    IsRead (element owner children).TakenBy
      fun after => writeStartTag owner ++ content (writeEndTag owner ++ after) := by
  rcases read with ⟨inner, apart, reads⟩
  refine ⟨expandSelfClosing (writeStartTag owner) ++ (inner ++ Node.endTag owner.name),
    fun after => ?_, fun reader atBreak nested taken => ?_⟩
  · rw [expandSelfClosing_writeStartTag, apart, expandSelfClosing_writeEndTag readable]
    simp only [List.append_assoc]
  · rw [List.foldl_append, foldl_step_writeStartTag readable atBreak]
    exact readsOn_element readable noVoid taken atBreak nested reads

theorem isRead_void {owner : Element} {children : List Tree} (readable : ReadableTag owner)
    (void : owner.isAnyOf voidNames = true) :
    IsRead (element owner children).TakenBy fun after => writeStartTag owner ++ after := by
  refine ⟨expandSelfClosing (writeStartTag owner), expandSelfClosing_writeStartTag owner,
    fun reader atBreak nested taken => ?_⟩
  rw [foldl_step_writeStartTag readable atBreak]
  exact readsOn_void readable void taken atBreak nested

theorem IsRead.append {takes takesMore : Markup.Reader → Prop}
    {write more : List Char → List Char} (read : IsRead takes write)
    (moreRead : IsRead takesMore more)
    (keeps : ∀ before after, ReadsOn before after → takes before → takes after) :
    IsRead (fun reader => takes reader ∧ takesMore reader) fun after => more (write after) := by
  rcases read with ⟨last, lastApart, lastReads⟩
  rcases moreRead with ⟨front, frontApart, frontReads⟩
  refine ⟨front ++ last, fun after => ?_, fun reader atBreak nested taken => ?_⟩
  · rw [frontApart, lastApart, List.append_assoc]
  · have middle := frontReads reader atBreak nested taken.2
    rw [List.foldl_append]
    exact middle.trans (lastReads _ middle.atBreak middle.nested (keeps _ _ middle taken.1))

theorem IsRead.weaken {takes takesLess : Markup.Reader → Prop} {write : List Char → List Char}
    (read : IsRead takes write) (less : ∀ reader, takesLess reader → takes reader) :
    IsRead takesLess write := by
  rcases read with ⟨written, apart, reads⟩
  exact ⟨written, apart, fun reader atBreak nested taken =>
    reads reader atBreak nested (less reader taken)⟩

variable {label : Nat → String} {bound : Nat}

mutual

/-- A nested tree is read where it may stand. -/
theorem isRead_write {raw : Bool} : {tree : Tree} → tree.isReadable raw = true →
    tree.Nested label bound → IsRead tree.TakenBy fun after => tree.write raw after
  | .text content, readable, _ => by
    have free : '<' ∉ (if raw then content else content.flatMap (escape false)) := by
      split
      · rename_i isRaw
        rw [isRaw] at readable
        simpa [isReadable] using readable
      · exact bracket_notMem_escape content
    exact isRead_text free _
  | .comment content, readable, _ => by
    rw [isReadable] at readable
    exact isRead_comment readable _
  | .doctype name, readable, _ => by
    have free : '<' ∉ name.toList := by simpa [isReadable] using readable
    exact isRead_doctype free _
  | .element owner children, readable, ⟨_, fit, nested⟩ => by
    rcases isReadable_element readable with ⟨readableTag, content⟩
    cases void : owner.isAnyOf voidNames with
    | true =>
        simp only [write_element_eq, void, if_true]
        exact isRead_void readableTag void
    | false =>
        have inner : IsRead (fun reader => reader.names.head? = some owner.name) fun after =>
            if owner.isNamed "template" then after
            else writeAll (owner.isAnyOf rawNames) after children := by
          cases template : owner.isNamed "template" with
          | true => exact isRead_text List.not_mem_nil _
          | false =>
              rw [void, template] at content
              have readableAll := (content.resolve_left Bool.false_ne_true).resolve_left
                Bool.false_ne_true
              apply (isRead_writeAll readableAll nested).weaken
              intro reader latest child member name isLatest
              rw [latest] at isLatest
              cases isLatest
              rw [readableTag.lower]
              exact .inr (fit child member)
        have written : (fun after => write raw after (.element owner children)) = fun after =>
            writeStartTag owner ++ if owner.isNamed "template" then writeEndTag owner ++ after
              else writeAll (owner.isAnyOf rawNames) (writeEndTag owner ++ after) children := by
          funext after
          rw [write_element_eq, void]
          rfl
        rw [written]
        exact isRead_element readableTag void inner

theorem isRead_writeAll {raw : Bool} : {trees : List Tree} →
    areReadable raw trees = true → AllNested label bound trees →
      IsRead (fun reader => ∀ tree ∈ trees, tree.TakenBy reader) fun after =>
        writeAll raw after trees
  | [], _, _ => ⟨[], fun _ => rfl, fun reader atBreak nested _ => ⟨atBreak, nested, .inl rfl⟩⟩
  | tree :: rest, readable, ⟨treeNested, restNested⟩ => by
    rw [areReadable, Bool.and_eq_true] at readable
    have read := (isRead_write readable.1 treeNested).append
      (isRead_writeAll readable.2 restNested) fun _ _ readsOn => readsOn.takenBy
    exact read.weaken fun reader taken => List.forall_mem_cons.mp taken

end

end Tree

/-- What is built of a page on which no tag strays is not misnested when it is read again, if it
can be read as it is written. Both conditions are sufficient only, and shut out pages that are read
well. Every start tag called `svg`, `math`, `template` or `isindex` strays, whatever stands in it
and around it. So does a frameset that may still replace the body or comes right after the head, a
table in any open paragraph on a page of old, an item right inside of a table though no other item
is open, a form between the parts of a table if it is in a paragraph, and the end tag of a form in
which something is open that needs an end tag of its own. A page cannot be read as it is written if
it has a foreign element, an opening bracket in text that is written without references (as in a
script or a style) or in the name of its document type, an element or an attribute with a character
other than letters, digits, `-`, `_`, `:` and `+` in its name, or a comment that the forgiving
reader ends elsewhere, such as an empty one. -/
theorem hasMisnested_completed {page : List Char}
    (stay : Builder.straysAmong (tokens page) .start = false)
    (readable : Tree.areReadable false (read page) = true) :
    hasMisnested (Markup.read (expandSelfClosing (completed page))) = false := by
  rcases read_nested stay with ⟨label, bound, nested⟩
  rcases Tree.isRead_writeAll readable nested with ⟨written, apart, reads⟩
  have startNested : Markup.Reader.start.Nested := rfl
  have taken : ∀ tree ∈ read page, tree.TakenBy .start := fun tree _ name latest => by cases latest
  have readsOn := reads .start (.inl rfl) startNested taken
  have source : expandSelfClosing (completed page) = written :=
    (apart []).trans (List.append_nil written)
  rw [source, Markup.read, Node.hasMisnested_eq, Markup.Reader.nodes_finish readsOn.atBreak]
  exact readsOn.nested.settle

theorem hasMisnested_completed_mixed :
    ∃ page, hasMisnested (Markup.read page) = true ∧
      hasMisnested (Markup.read (expandSelfClosing (completed page))) = false :=
  ⟨"<ul><li title=\"a/>b\">c<li><p>d<p><b>e</ul><table><tr><td>f<td>g</b><tr><th>h<!-- i -->".toList,
    by decide +kernel, hasMisnested_completed (by decide +kernel) (by decide +kernel)⟩

/-- Without a document type a table does not end a paragraph, so that it stays inside of it. -/
theorem table_left_in_paragraph :
    ∃ page, hasMisnested (Markup.read page) = true ∧
      hasMisnested (Markup.read (expandSelfClosing (completed page))) = true :=
  ⟨"<p><p><table>".toList, by decide +kernel, by decide +kernel⟩

end ChatMarkup.Document
