import ChatMarkup.Proofs.Comments
import ChatMarkup.Proofs.HiddenElements
import ChatMarkup.Proofs.TagExpansion

/-!
Pages of texts with self-closing tags between them. Whatever the tags are called, every text is
shown where it stands: an element that such a tag opens is closed at once, or has no content, or,
where the forgiving reader does not know it for one that has none, takes the rest of the page for
its content and shows it as it is.
-/

namespace ChatMarkup

open Text Source

/-! ## Pages -/

/-- A self-closing tag, and the text up to the next one. -/
structure SlashTag where
  name : List Char
  blanks : List Char
  text : List Char
  isName : isSlashName name = true
  blank : ∀ char ∈ blanks, isBlank char = true
  free : '<' ∉ text

namespace SlashTag

def source (tag : SlashTag) : List Char :=
  '<' :: (tag.name ++ (tag.blanks ++ '/' :: '>' :: tag.text))

theorem notMem_name (tag : SlashTag) {other : Char} (different : isTagNameChar other = false) :
    other ∉ tag.name := by
  rcases exists_of_isSlashName tag.isName with ⟨-, -, -, -, nameChars⟩
  intro member
  rw [nameChars other member] at different
  cases different

/-! ## Trimming -/

def trimLast : List SlashTag → List SlashTag
  | [] => []
  | [last] =>
    [{ last with
      text := trimEnd last.text
      free := fun member => last.free ((trimEndWhere_sublist isBlank last.text).mem member) }]
  | tag :: next :: rest => tag :: trimLast (next :: rest)

theorem trimEnd_append_bracket (front tail : List Char) :
    trimEnd (front ++ '<' :: tail) = front ++ trimEnd ('<' :: tail) := by
  have kept : isBlank '<' = false := by decide
  rw [trimEnd, trimEndWhere_append_cons front kept, trimEnd]
  exact congrArg _ (trimEndWhere_append_cons [] kept tail).symm

theorem trimEnd_source (tag : SlashTag) (rest : List SlashTag) :
    trimEnd ((tag :: rest).flatMap source) = (trimLast (tag :: rest)).flatMap source := by
  induction rest generalizing tag with
  | nil =>
      have kept := trimEndWhere_append_cons ('<' :: (tag.name ++ (tag.blanks ++ ['/'])))
        (by decide : isBlank '>' = false) tag.text
      simpa [source, trimLast, trimEnd] using kept
  | cons next rest induction =>
      change trimEnd (tag.source ++ (next :: rest).flatMap source) =
        tag.source ++ (trimLast (next :: rest)).flatMap source
      rw [← induction]
      exact trimEnd_append_bracket _ _

/-- The first text, which is the last one as well if there are no tags. -/
def trimFirst (first : List Char) (tags : List SlashTag) : List Char :=
  if tags.isEmpty then trim first else trimStart first

theorem trim_page (first : List Char) (tags : List SlashTag) :
    trim (first ++ tags.flatMap source) =
      trimFirst first tags ++ (trimLast tags).flatMap source := by
  cases tags with
  | nil => simp [trimFirst, trimLast]
  | cons tag rest =>
      have kept : isBlank '<' = false := by decide
      rw [← trimEnd_source]
      exact (trim_append_cons first kept _).trans
        (congrArg _ (trimEndWhere_append_cons [] kept _).symm)

/-! ## Preparing -/

def expanded (tag : SlashTag) : List Char := '<' :: (openTag tag.name [] ++ tag.text)

/-- There are no end tags on the page. -/
theorem afterBody?_page {anyCase : Bool} (hidden : List Char) {first : List Char}
    (free : '<' ∉ first) (tags : List SlashTag) :
    afterBody? anyCase hidden (first ++ tags.flatMap source) = none := by
  rw [afterBody?_append_of_free free]
  induction tags with
  | nil => rfl
  | cons tag rest induction =>
      have tagFree : '<' ∉ tag.name ++ (tag.blanks ++ '/' :: '>' :: tag.text) := by
        simp [tag.notMem_name (by decide : isTagNameChar '<' = false),
          bracket_notMem_of_blank tag.blank, tag.free]
      have noEndTag : afterEndTag? anyCase hidden
          ('<' :: (tag.name ++ (tag.blanks ++ '/' :: '>' :: tag.text) ++ rest.flatMap source)) =
            none := by
        rcases exists_of_isSlashName tag.isName with ⟨initial, letters, named, letter, -⟩
        have noSlash : matchesLetter anyCase '/' initial = false := by
          refine forall_isAlpha (fun char => matchesLetter anyCase '/' char = false) ?_ letter
          cases anyCase <;> decide +kernel
        rw [named]
        simp [afterEndTag?, afterName?, noSlash, matchesLetter_self]
      rw [List.flatMap_cons]
      exact (afterBody?_bracket tagFree noEndTag).trans induction

def selfClosing (tag : SlashTag) : SelfClosingTag where
  name := tag.name
  attributes := tag.blanks
  isName := tag.isName
  opensNone := bracket_notMem_of_blank tag.blank
  closesNone := fun member => absurd (tag.blank _ member) (by decide)
  separated := by
    rw [Option.all_eq_true]
    exact fun char first => tag.blank char (List.mem_of_mem_head? first)

theorem source_eq (tag : SlashTag) : tag.source = tag.selfClosing.source ++ tag.text := by
  simp [source, SelfClosingTag.source, selfClosing]

theorem expanded_eq (tag : SlashTag) : tag.expanded = tag.selfClosing.expanded ++ tag.text := by
  have trimmed : trimEnd tag.blanks = [] := trimEndWhere_eq_nil tag.blank
  rw [expanded, openTag, SelfClosingTag.expanded, spelledOut, selfClosing, trimmed]
  split <;> simp [trimEnd, trimEndWhere]

/-- Every tag is expanded, whatever it is called. -/
theorem prepare_page {options : Options} {first : List Char} (free : '<' ∉ first)
    (tags : List SlashTag) :
    prepare options (first ++ tags.flatMap source) = first ++ tags.flatMap expanded := by
  rw [prepare, removeHidden_of_no_endTag fun hidden _ => afterBody?_page hidden free tags,
    expandSelfClosing_append_of_free free]
  congr 1
  induction tags with
  | nil => rfl
  | cons tag rest induction =>
      rw [List.flatMap_cons, List.flatMap_cons, source_eq, expanded_eq, List.append_assoc,
        SelfClosingTag.expandSelfClosing_source_append, expandSelfClosing_append_of_free tag.free,
        induction, List.append_assoc]

end SlashTag

/-! ## Reading -/

namespace Markup

/-- The name of an element without content that the reader does not know for one. -/
def takesRest (name : String) : Bool := isVoidName name && !contentless.contains name

namespace Reader

variable {reader : Reader}

def HoldsVoid (reader : Reader) : Prop := ∀ name ∈ reader.names.head?, isVoidName name = true

theorem names_addAll (nodes : List Node) (reader : Reader) :
    (addAll nodes reader).names = reader.names := by
  induction nodes generalizing reader with
  | nil => rfl
  | cons node rest induction => exact (induction _).trans (names_add node reader)

theorem HoldsVoid.closeNamed (holds : reader.HoldsVoid) {name : String}
    (notVoid : isVoidName name = false) : reader.closeNamed name = reader := by
  cases latest : reader.names.head? with
  | none =>
      rw [names, List.head?_map, Option.map_eq_none_iff, List.head?_eq_none_iff] at latest
      rw [Reader.closeNamed, latest]
  | some innermost =>
      refine closeNamed_of_ne latest ?_
      rintro rfl
      rw [holds innermost latest] at notVoid
      cases notVoid

end Reader

end Markup

namespace SlashTag

open Markup

theorem isReadName_name (tag : SlashTag) : Reader.isReadName tag.name = true := by
  rcases exists_of_isSlashName tag.isName with ⟨initial, letters, named, -, nameChars⟩
  refine Reader.isReadName_iff.mpr ⟨?_, fun char member =>
    isNameChar_of_isTagNameChar (nameChars char member)⟩
  rw [named]
  exact List.cons_ne_nil _ _

/-- The reader after an expanded tag: an element is open for the rest of the page, or there is one
more without content. -/
def enter (tag : SlashTag) (reader : Reader) : Reader :=
  if takesRest (String.ofList tag.name) then reader.push (String.ofList tag.name)
  else reader.add (.element (String.ofList tag.name) [])

def withRest (tag : SlashTag) (rest : List Node) : List Node :=
  if takesRest (String.ofList tag.name) then [.element (String.ofList tag.name) rest]
  else .element (String.ofList tag.name) [] :: rest

def nodes : List SlashTag → List Node
  | [] => []
  | tag :: rest => tag.withRest (textNodes tag.text ++ nodes rest)

variable {reader : Reader}

theorem phase_enter (tag : SlashTag) (reader : Reader) :
    (tag.enter reader).phase = reader.phase := by
  rw [enter]
  split
  · rfl
  · exact Reader.phase_add _ reader

theorem holdsVoid_enter (tag : SlashTag) (holds : reader.HoldsVoid) :
    (tag.enter reader).HoldsVoid := by
  rw [enter]
  split
  · rename_i takes
    intro name latest
    rcases Option.some.inj latest with rfl
    exact (Bool.and_eq_true_iff.mp takes).1
  · rw [Reader.HoldsVoid, Reader.names_add]
    exact holds

theorem nodes_addAll_enter (tag : SlashTag) (rest : List Node) (reader : Reader) :
    (Reader.addAll rest (tag.enter reader)).nodes =
      (Reader.addAll (tag.withRest rest) reader).nodes := by
  rw [enter, withRest]
  split
  · exact Reader.nodes_addAll_push _ rest reader
  · rfl

theorem foldl_step_openTag (tag : SlashTag) (atBreak : reader.AtBreak)
    (holds : reader.settle.HoldsVoid) :
    ('<' :: openTag tag.name []).foldl Reader.step reader = tag.enter reader.settle := by
  have started := Reader.foldl_step_bareTag tag.isReadName_name atBreak
  have bare : '<' :: openTag tag.name [] =
      '<' :: (tag.name ++ ['>']) ++
        if isVoidName (String.ofList tag.name) then []
        else Node.endTag (String.ofList tag.name) := by
    rw [openTag]
    split <;> simp [Node.endTag, trimEnd, trimEndWhere]
  rw [bare, List.foldl_append, started, enter, takesRest, Reader.openElement, Bool.false_or]
  cases void : isVoidName (String.ofList tag.name) with
  | true =>
      cases empty : contentless.contains (String.ofList tag.name) <;> rfl
  | false =>
      have noBracket : '>' ∉ (String.ofList tag.name).toList := by
        rw [String.toList_ofList]
        exact tag.notMem_name (by decide)
      have between := atBreak.phase_settle
      cases contentless.contains (String.ofList tag.name) with
      | true =>
          have addedBetween :
              (reader.settle.add (.element (String.ofList tag.name) [])).phase = .between :=
            (Reader.phase_add _ _).trans between
          have addedHolds :
              (reader.settle.add (.element (String.ofList tag.name) [])).HoldsVoid := by
            rw [Reader.HoldsVoid, Reader.names_add]
            exact holds
          change (Node.endTag _).foldl Reader.step (reader.settle.add _) = reader.settle.add _
          rw [Reader.foldl_step_endTag noBracket (.inl addedBetween),
            Reader.settle_eq_self addedBetween, addedHolds.closeNamed void]
      | false =>
          have openBetween : (reader.settle.push (String.ofList tag.name)).phase = .between :=
            between
          change (Node.endTag _).foldl Reader.step (reader.settle.push _) = reader.settle.add _
          rw [Reader.foldl_step_endTag noBracket (.inl openBetween),
            Reader.settle_eq_self openBetween]
          exact Reader.closeNamed_addAll_push _ [] _

theorem nodes_foldl_step (tags : List SlashTag) (atBreak : reader.AtBreak)
    (holds : reader.settle.HoldsVoid) :
    ((tags.flatMap expanded).foldl Reader.step reader).AtBreak ∧
      ((tags.flatMap expanded).foldl Reader.step reader).settle.nodes =
        (Reader.addAll (nodes tags) reader.settle).nodes := by
  induction tags generalizing reader with
  | nil => exact ⟨atBreak, rfl⟩
  | cons tag rest induction =>
      have between := (tag.phase_enter reader.settle).trans atBreak.phase_settle
      rcases Reader.foldl_step_textNodes tag.free between with ⟨textBreak, settled⟩
      have textHolds : (tag.text.foldl Reader.step (tag.enter reader.settle)).settle.HoldsVoid := by
        rw [settled, Reader.HoldsVoid, Reader.names_addAll]
        exact tag.holdsVoid_enter holds
      have start : ((tag :: rest).flatMap expanded).foldl Reader.step reader =
          (rest.flatMap expanded).foldl Reader.step
            (tag.text.foldl Reader.step (tag.enter reader.settle)) := by
        rw [List.flatMap_cons, expanded, ← List.cons_append, List.foldl_append, List.foldl_append,
          tag.foldl_step_openTag atBreak holds]
      rcases induction textBreak textHolds with ⟨lastBreak, nodesRead⟩
      rw [start]
      refine ⟨lastBreak, ?_⟩
      rw [nodesRead, settled, ← Reader.addAll_append, nodes_addAll_enter]
      rfl

/-- Every tag is read to an element, and every text to a node beside it or in it. -/
theorem read_page {first : List Char} (free : '<' ∉ first) (tags : List SlashTag) :
    read (first ++ tags.flatMap expanded) = textNodes first ++ nodes tags := by
  rcases @Reader.foldl_step_textNodes first free .start rfl with ⟨firstBreak, settled⟩
  have outside : (first.foldl Reader.step .start).settle.HoldsVoid := by
    rw [settled, Reader.HoldsVoid, Reader.names_addAll]
    exact fun name latest => by cases latest
  rcases nodes_foldl_step tags firstBreak outside with ⟨lastBreak, nodesRead⟩
  rw [Markup.read, List.foldl_append, Reader.nodes_finish lastBreak, nodesRead, settled,
    ← Reader.addAll_append, Reader.addAll_top _ rfl, Reader.nodes]
  simp [Reader.start]

/-! ## Nothing is misnested -/

theorem lowercaseName_mem_contentless {name : String} (void : isVoidName name = true) :
    lowercaseName name ∈ contentless :=
  (show _ ⊆ contentless by decide) (List.contains_iff_mem.mp void)

theorem closesNothing_of_isVoidName {name : String} (void : isVoidName name = true) :
    ClosesNothing name := by
  intro child
  have listed := lowercaseName_mem_contentless void
  generalize lowercaseName name = parent at listed
  unfold closesParent
  split
  all_goals first | rfl | exact absurd listed (by decide)

theorem areMisnested_nodes (tags : List SlashTag) : Node.areMisnested (nodes tags) = false := by
  induction tags with
  | nil => rfl
  | cons tag rest induction =>
      have inner : Node.areMisnested (textNodes tag.text ++ nodes rest) = false := by
        rw [Node.areMisnested_append, areMisnested_textNodes, induction]
        rfl
      rw [nodes, withRest]
      split
      · rename_i takes
        have closesNothing := closesNothing_of_isVoidName (Bool.and_eq_true_iff.mp takes).1
        rw [Node.areMisnested, Node.isMisnested, closesNothing.any_misnested, inner]
        rfl
      · exact inner

/-! ## The message -/

def literal (name : List Char) : List Char :=
  if name = "br".toList then "\n".toList
  else if name = "hr".toList then "\n---\n".toList
  else []

/-- Of all elements only breaks and rules show something without content. -/
theorem applyVoid_ofElement (name : String) :
    (Rule.ofElement name).applyVoid = literal name.toList := by
  have table : Rule.elements.all (fun entry =>
      entry.1.all fun listed => entry.2.applyVoid == literal listed.toList) = true := by
    decide +kernel
  rw [Rule.ofElement]
  split
  · rename_i entry found
    have listed := List.all_eq_true.mp table entry (List.mem_of_find?_eq_some found)
    have named : name ∈ entry.1 := List.contains_iff_mem.mp (List.find?_some found :)
    exact beq_iff_eq.mp (List.all_eq_true.mp listed name named)
  · rename_i unlisted
    have noBreak : name.toList ≠ "br".toList := by
      intro isBreak
      rw [String.toList_injective isBreak] at unlisted
      exact absurd unlisted (by decide +kernel)
    have noRule : name.toList ≠ "hr".toList := by
      intro isRule
      rw [String.toList_injective isRule] at unlisted
      exact absurd unlisted (by decide +kernel)
    rw [literal, if_neg noBreak, if_neg noRule]
    rfl

/-- The reader knows the elements without content by their names in lower case. -/
theorem isUpper_of_takesRest {name : String} (takes : takesRest name = true) :
    name.toList.any Char.isUpper = true := by
  rw [takesRest, Bool.and_eq_true, Bool.not_eq_true'] at takes
  by_contra small
  have lower : lowercaseName name = name := by
    have kept : ∀ char ∈ name.toList, char.toLower = char := by
      intro char member
      apply toLower_eq_self
      rw [Bool.eq_false_iff]
      exact fun upper => small (List.any_eq_true.mpr ⟨char, member, upper⟩)
    rw [lowercaseName, List.map_congr_left kept, List.map_id', String.ofList_toList]
  have listed := lowercaseName_mem_contentless takes.1
  rw [lower, ← List.contains_iff_mem, takes.2] at listed
  cases listed

section Shown

variable {options : Options}

theorem format_passThrough {name : String} (passes : elementRule options name = .passThrough)
    (children : List Node) :
    (Node.element name children).format options = Node.formatAll options children := by
  cases children with
  | nil =>
      rw [Node.format, passes]
      rfl
  | cons child rest =>
      rw [Node.format, passes]
      rfl

def shown (options : Options) (tag : SlashTag) : List Char :=
  literal tag.name ++ shownText options tag.text

theorem formatAll_withRest (keepsCase : options.lowercaseTags = false) (tag : SlashTag)
    (rest : List Node) :
    Node.formatAll options (tag.withRest rest) =
      literal tag.name ++ Node.formatAll options rest := by
  have shows := applyVoid_ofElement (String.ofList tag.name)
  rw [String.toList_ofList] at shows
  have rule : elementRule options (String.ofList tag.name) =
      Rule.ofElement (String.ofList tag.name) := by
    rw [elementRule, elementName, keepsCase]
    rfl
  rw [withRest]
  split
  · rename_i takes
    have passes := Node.elementRule_of_capital keepsCase (isUpper_of_takesRest takes)
    rw [← rule, passes] at shows
    rw [Node.formatAll, format_passThrough passes, ← shows]
    exact List.append_nil _
  · rw [Node.formatAll, Node.format, rule, shows]

theorem formatAll_nodes (keepsCase : options.lowercaseTags = false) (tags : List SlashTag) :
    Node.formatAll options (nodes tags) = tags.flatMap (shown options) := by
  induction tags with
  | nil => rfl
  | cons tag rest induction =>
      rw [nodes, formatAll_withRest keepsCase, formatAll_append, formatAll_textNodes, induction,
        List.flatMap_cons, shown, List.append_assoc]

end Shown

theorem free_trimFirst {first : List Char} (free : '<' ∉ first) (tags : List SlashTag) :
    '<' ∉ trimFirst first tags := by
  rw [trimFirst]
  split
  · exact fun member => free ((trim_sublist first).mem member)
  · exact fun member => free ((List.dropWhile_sublist isBlank).mem member)

theorem convertText_page {options : Options} (keepsCase : options.lowercaseTags = false)
    {first : List Char} (free : '<' ∉ first) (tags : List SlashTag) :
    convertText options (first ++ tags.flatMap source) =
      tidy (shownText options (trimFirst first tags) ++
        (trimLast tags).flatMap (shown options)) := by
  have firstFree := free_trimFirst free tags
  have nodesRead : Markup.read (prepare options (trim (first ++ tags.flatMap source))) =
      textNodes (trimFirst first tags) ++ nodes (trimLast tags) := by
    rw [trim_page, prepare_page firstFree, read_page firstFree]
  rw [convertText_of_not_misnested, nodesRead, formatAll_append, formatAll_textNodes,
    formatAll_nodes keepsCase]
  rw [nodesRead, Node.hasMisnested_eq, Node.areMisnested_append, areMisnested_textNodes,
    areMisnested_nodes]
  rfl

end SlashTag

/-- The texts between self-closing tags are shown where they stand, and of the tags only breaks and
rules show something. -/
theorem convert_self_closing_tags (first : List Char) (free : '<' ∉ first) (tags : List SlashTag) :
    convert (String.ofList (first ++ tags.flatMap SlashTag.source)) {} =
      String.ofList (tidy (decodeReferences (SlashTag.trimFirst first tags) ++
        (SlashTag.trimLast tags).flatMap fun tag =>
          SlashTag.literal tag.name ++ decodeReferences tag.text)) := by
  rw [convert, String.toList_ofList, SlashTag.convertText_page rfl free]
  rfl

theorem convert_self_closing_tags_mixed :
    convert " a<BR />b<br\n/>c &lt;<li/><p\t/>d<keygen/><script/>e<hr/>f " {} =
      "ab\nc <de\n---\nf" := by
  have converted := convert_self_closing_tags " a".toList (by decide)
    [⟨"BR".toList, [' '], ['b'], by decide, List.all_eq_true.mp (by decide), by decide⟩,
      ⟨"br".toList, ['\n'], "c &lt;".toList, by decide, List.all_eq_true.mp (by decide), by decide⟩,
      ⟨"li".toList, [], [], by decide, List.all_eq_true.mp (by decide), by decide⟩,
      ⟨"p".toList, ['\t'], ['d'], by decide, List.all_eq_true.mp (by decide), by decide⟩,
      ⟨"keygen".toList, [], [], by decide, List.all_eq_true.mp (by decide), by decide⟩,
      ⟨"script".toList, [], ['e'], by decide, List.all_eq_true.mp (by decide), by decide⟩,
      ⟨"hr".toList, [], "f ".toList, by decide, List.all_eq_true.mp (by decide), by decide⟩]
  refine Eq.trans (congrArg (convert · {}) ?_) (converted.trans ?_)
  · decide +kernel
  · decide +kernel

end ChatMarkup
