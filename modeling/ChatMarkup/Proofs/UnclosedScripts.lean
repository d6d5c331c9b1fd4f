import ChatMarkup.Proofs.Comments
import ChatMarkup.Proofs.CompletedScripts
import ChatMarkup.Proofs.EnclosedReading
import ChatMarkup.Proofs.HiddenElements
import ChatMarkup.Proofs.SlashFreeScripts

/-!
A script that has no end tag. It is not removed from the source, but left to the readers, and the
message shows nothing from its start tag on. That is so as long as the readers take nothing in the
script for its end tag: they accept more end tags than removal does, and some that come into being
only when the page is prepared.
-/

namespace ChatMarkup

open Text Source

/-! ## Preparing the page -/

namespace Source

/-- The start tag of a script is left if no end tag follows. -/
theorem removeHiddenWhere_scriptTag {rest : List Char} (none : NoEndTag "script".toList rest) :
    removeHiddenWhere false (Node.startTag "script" ++ rest) =
      Node.startTag "script" ++ removeHiddenWhere false rest := by
  have started := @afterStartTag?_tag false [] List.not_mem_nil rfl "script".toList rest
  have noScript : afterElement? false (Node.startTag "script" ++ rest) "script".toList =
      Option.none := by
    have whole : Node.startTag "script" ++ rest = '<' :: ("script".toList ++ ([] ++ '>' :: rest)) :=
      rfl
    rw [afterElement?, whole, started]
    exact (afterBody?_eq_none_iff _ _).mpr none
  have noStyle : afterElement? false (Node.startTag "script" ++ rest) "style".toList =
      Option.none := rfl
  have shown : afterHidden? false (Node.startTag "script" ++ rest) = Option.none := by
    rw [afterHidden?, hiddenNames, List.findSome?_cons, noScript, List.findSome?_cons, noStyle]
    rfl
  have free : '<' ∉ "script>".toList := by decide
  exact (removeHiddenWhere_cons shown).trans
    (congrArg _ (removeHiddenWhere_append_of_free free rest))

end Source

def scriptPage (before content : List Char) : List Char :=
  before ++ (Node.startTag "script" ++ content)

theorem prepare_scriptPage {before rest : List Char} (free : '<' ∉ before)
    (none : NoEndTag "script".toList rest) :
    prepare {} (trim (scriptPage before rest)) =
      scriptPage (trimStart before) (prepare {} (trimEnd rest)) := by
  have noStartTag : ∀ name ∈ hiddenNames, ¬ '<' :: name <:+: before := fun name _ found =>
    free (found.mem List.mem_cons_self)
  have startFree : '<' ∉ trimStart before := fun member =>
    free ((List.dropWhile_sublist isBlank).mem member)
  have ends : '<' :: trimEnd ("script".toList ++ '>' :: rest) =
      Node.startTag "script" ++ trimEnd rest :=
    congrArg _ (trimEndWhere_append_cons _ (by decide) rest)
  have endNone : NoEndTag "script".toList (trimEnd rest) := by
    rcases @exists_trimEndWhere_append isBlank rest with ⟨tail, whole, -⟩
    exact none.of_infix ⟨[], tail, whole.symm⟩
  have removed : removeHidden {} (trim (scriptPage before rest)) =
      trimStart before ++ removeHidden {} ('<' :: trimEnd ("script".toList ++ '>' :: rest)) :=
    removeHidden_trim rfl noStartTag _
  have kept : removeHidden {} (Node.startTag "script" ++ trimEnd rest) =
      Node.startTag "script" ++ removeHidden {} (trimEnd rest) :=
    removeHiddenWhere_scriptTag endNone
  rw [prepare, removed, ends, kept, expandSelfClosing_append_of_free startFree,
    expandSelfClosing_startTag (by decide)]
  rfl

/-! A completed page is expanded in its script only. -/

theorem expandSelfClosing_scriptBefore (after script : List Char) :
    expandSelfClosing (Document.scriptBefore after script) =
      Document.scriptBefore (expandSelfClosing after) (expandSelfClosing script) := by
  have ended := expandSelfClosing_append_open script ('/' :: ("script>".toList ++ after))
  have closing : expandSelfClosing (Node.endTag "script" ++ after) =
      Node.endTag "script" ++ expandSelfClosing after := expandSelfClosing_endTag (by decide) after
  rw [Document.scriptBefore, expandSelfClosing_startTag (by decide)]
  exact congrArg _ (ended.trans (congrArg _ closing))

theorem expandSelfClosing_headPage (script : List Char) :
    expandSelfClosing (Document.headPage script) =
      Document.headPage (expandSelfClosing script) := by
  rw [Document.headPage, expandSelfClosing_startTag (by decide),
    expandSelfClosing_startTag (by decide), expandSelfClosing_scriptBefore,
    expandSelfClosing_endTag (by decide), expandSelfClosing_startTag (by decide),
    expandSelfClosing_endTag (by decide)]
  rfl

theorem expandSelfClosing_bodyPage (text script : List Char) :
    expandSelfClosing (Document.bodyPage text script) =
      Document.bodyPage text (expandSelfClosing script) := by
  rw [Document.bodyPage, expandSelfClosing_startTag (by decide),
    expandSelfClosing_startTag (by decide), expandSelfClosing_endTag (by decide),
    expandSelfClosing_startTag (by decide),
    expandSelfClosing_append_of_free (bracket_notMem_escape text), expandSelfClosing_scriptBefore,
    expandSelfClosing_endTag (by decide)]
  rfl

/-! ## The readers -/

def scriptNodes (text : List Char) (children : List Node) : List Node :=
  textNodes text ++ [.element "script" children]

theorem add_script (text : List Char) (children : List Node) (reader : Markup.Reader) :
    (Markup.Reader.addAll (textNodes text) reader).add (.element "script" children) =
      Markup.Reader.addAll (scriptNodes text children) reader :=
  (Markup.Reader.addAll_append (textNodes text) [.element "script" children] reader).symm

namespace Markup

theorem isReadName_script : Reader.isReadName "script".toList = true := by decide

theorem read_scriptPage {before content : List Char} (free : '<' ∉ before)
    (stays : leavesOpen "script" content = true) :
    ∃ children, read (scriptPage before content) = scriptNodes before children := by
  rcases @Reader.foldl_step_textNodes before free .start rfl with ⟨atBreak, settled⟩
  rcases atBreak.exists_foldl_step_opened isReadName_script (by decide) stays with
    ⟨inner, isOpen, whole⟩
  rcases isOpen.exists_nodes (before.foldl Reader.step .start).settle with ⟨children, nodes⟩
  refine ⟨children, ?_⟩
  rw [read, scriptPage, List.foldl_append, whole, nodes, settled, add_script,
    Reader.addAll_top _ rfl, Reader.nodes]
  simp [Reader.start]

def bodyReader : Reader := ⟨.between, [⟨"body", []⟩, ⟨"html", [.element "head" []]⟩], []⟩

theorem nodes_addAll_bodyReader (nodes : List Node) :
    (Reader.addAll nodes bodyReader).nodes = [pageNode nodes] :=
  Reader.nodes_addAll_push "body" nodes ⟨.between, [⟨"html", [.element "head" []]⟩], []⟩

theorem read_bodyPage (text : List Char) {script : List Char}
    (stays : leavesOpen "script" script = true) :
    ∃ children, read (Document.bodyPage text script) =
      [pageNode (scriptNodes (text.flatMap (Document.Tree.escape false)) children)] := by
  have whole : Document.bodyPage text script =
      Node.startTag "html" ++ Node.startTag "head" ++ Node.endTag "head" ++ Node.startTag "body" ++
        (text.flatMap (Document.Tree.escape false) ++
          (Node.startTag "script" ++ (script ++ Node.endTag "script") ++
            (Node.endTag "body" ++ Node.endTag "html"))) := by
    simp [Document.bodyPage, Document.scriptBefore]
  have front : (Node.startTag "html" ++ Node.startTag "head" ++ Node.endTag "head" ++
      Node.startTag "body").foldl Reader.step .start = bodyReader := rfl
  rcases @Reader.foldl_step_textNodes _ (bracket_notMem_escape text) bodyReader rfl with
    ⟨atBreak, settled⟩
  have isBody : Reader.isReadName "body".toList = true := by decide
  have isHtml : Reader.isReadName "html".toList = true := by decide
  have afterScript := atBreak.endsWith_foldl_step isReadName_script (by decide) stays
  have afterBody := afterScript.foldl_step_endTag isReadName_script isBody (by decide)
  have afterHtml := afterBody.foldl_step_endTag isReadName_script isHtml (by decide)
  rcases afterHtml.exists_nodes with ⟨children, nodes⟩
  refine ⟨children, ?_⟩
  rw [read, whole, List.foldl_append, front, List.foldl_append, List.foldl_append,
    List.foldl_append, nodes, settled, add_script, nodes_addAll_bodyReader]

def headReader : Reader := ⟨.between, [⟨"head", []⟩, ⟨"html", []⟩], []⟩

/-- The body is taken for part of the script if the script is not closed. -/
theorem read_headPage {script : List Char} (stays : leavesOpen "script" script = true) :
    ∃ children after, read (Document.headPage script) =
      [.element "html" (.element "head" [.element "script" children] :: after)] ∧
      (after = [] ∨ after = [.element "body" []]) := by
  have whole : Document.headPage script =
      Node.startTag "html" ++ Node.startTag "head" ++
        (Node.startTag "script" ++ (script ++ Node.endTag "script") ++
          (Node.endTag "head" ++ (Node.startTag "body" ++
            (Node.endTag "body" ++ Node.endTag "html")))) := by
    simp [Document.headPage, Document.scriptBefore]
  have front : (Node.startTag "html" ++ Node.startTag "head").foldl Reader.step .start =
      headReader := rfl
  have atBreak : headReader.AtBreak := .inl rfl
  rw [read, whole, List.foldl_append, front, List.foldl_append]
  rcases atBreak.foldl_step_enclosed isReadName_script (by decide) stays with
    ⟨inner, isOpen, read⟩ | ⟨children, read⟩
  · have afterHead := isOpen.foldl_step_endTag (by decide) (by decide : '>' ∉ "head".toList)
      (by decide) (by decide)
    have inBody := afterHead.foldl_step_startTag (by decide) (by decide : '>' ∉ "body".toList)
      (by decide)
    have afterBody := inBody.foldl_step_endTag (by decide) (by decide : '>' ∉ "body".toList)
      (by decide) (by decide)
    have afterHtml := afterBody.foldl_step_endTag (by decide) (by decide : '>' ∉ "html".toList)
      (by decide) (by decide)
    rw [← List.foldl_append, ← List.foldl_append, ← List.foldl_append] at afterHtml
    have ends := isOpen.endsWith_foldl_step afterHtml headReader.settle
    rcases ends.exists_nodes with ⟨children, nodes⟩
    refine ⟨children, [], ?_, .inl rfl⟩
    rw [read, nodes]
    rfl
  · refine ⟨children, _, ?_, .inr rfl⟩
    rw [read]
    rfl

end Markup

/-! ## The message -/

section Format

variable (options : Options)

theorem format_dropped {name : String} (named : elementRule options name = .drop)
    (children : List Node) : (Node.element name children).format options = [] := by
  cases children <;> simp [Node.format, named, Rule.applyContent, Rule.apply, Rule.applyVoid]

theorem format_script (children : List Node) :
    (Node.element "script" children).format options = [] :=
  format_dropped options ((elementRule_of_lower options (by decide)).trans (by decide)) children

theorem formatAll_scriptNodes (text : List Char) (children : List Node) :
    Node.formatAll options (scriptNodes text children) = shownText options text := by
  rw [scriptNodes, formatAll_append, formatAll_textNodes, Node.formatAll, format_script]
  exact List.append_nil _

/-- Neither a head nor an empty body shows anything. -/
theorem formatAll_headPage (children : List Node) {after : List Node}
    (rest : after = [] ∨ after = [.element "body" []]) :
    Node.formatAll options [.element "html" (.element "head" children :: after)] = [] := by
  have htmlRule : elementRule options "html" = .passThrough :=
    (elementRule_of_lower options (by decide)).trans (by decide)
  have bodyRule : elementRule options "body" = .passThrough :=
    (elementRule_of_lower options (by decide)).trans (by decide)
  have headDropped : (Node.element "head" children).format options = [] :=
    format_dropped options ((elementRule_of_lower options (by decide)).trans (by decide)) children
  have nothing : Node.formatAll options after = [] := by
    rcases rest with rfl | rfl
    · rfl
    · rw [Node.formatAll, Node.format, bodyRule]
      rfl
  have inner : Node.formatAll options (.element "head" children :: after) = [] := by
    rw [Node.formatAll, headDropped, nothing]
    rfl
  rw [Node.formatAll, Node.format, htmlRule]
  exact (List.append_nil _).trans inner

end Format

/-- The readers take all that follows the start tag for the content of a script. If the page has to
be completed, that holds for the reading of browsers and for the completed page, and both readers
show the same text in front of the script. -/
def ScriptStaysOpen (text content : List Char) : Prop :=
  let tokens := Document.tokens (scriptPage text content)
  if Markup.hasMisnested (Markup.read (scriptPage text content)) then
    .endTag "script" ∉ tokens ∧
      Markup.leavesOpen "script" (expandSelfClosing (Document.textAfterTag tokens)) = true ∧
        tidy (Document.textBeforeTag tokens) = tidy (decodeReferences text)
  else Markup.leavesOpen "script" content = true

instance (text content : List Char) : Decidable (ScriptStaysOpen text content) :=
  instDecidableIte

theorem message_scriptPage {text content : List Char} (free : '<' ∉ text)
    (stays : ScriptStaysOpen text content) :
    message {} (pageNodes (scriptPage text content)) = tidy (decodeReferences text) := by
  have decoded : ∀ text, shownText {} text = decodeReferences text := fun _ => rfl
  rw [ScriptStaysOpen] at stays
  rw [message_eq, pageNodes]
  split
  · rename_i misnested
    rw [if_pos misnested] at stays
    rcases stays with ⟨unended, leavesOpen, sameText⟩
    rcases @Document.completed_script text content (scriptPage text content) free rfl unended with
      ⟨nothing, completed⟩ | completed
    · rw [completed, expandSelfClosing_headPage]
      rcases Markup.read_headPage leavesOpen with ⟨children, after, nodes, rest⟩
      rw [nodes, formatAll_headPage _ _ rest, ← sameText, nothing]
    · rw [completed, expandSelfClosing_bodyPage]
      rcases Markup.read_bodyPage _ leavesOpen with ⟨children, nodes⟩
      rw [nodes, formatAll_pageNode, formatAll_scriptNodes, decoded, decodeReferences_escape,
        sameText]
  · rename_i nested
    rw [if_neg nested] at stays
    rcases Markup.read_scriptPage free stays with ⟨children, nodes⟩
    rw [nodes, formatAll_scriptNodes, decoded]

theorem convertText_scriptPage {before rest : List Char} (free : '<' ∉ before)
    (none : NoEndTag "script".toList rest)
    (stays : ScriptStaysOpen (trimStart before) (prepare {} (trimEnd rest))) :
    convertText {} (scriptPage before rest) = tidy (decodeReferences (trimStart before)) := by
  have startFree : '<' ∉ trimStart before := fun member =>
    free ((List.dropWhile_sublist isBlank).mem member)
  rw [convertText_eq_message, prepare_scriptPage free none, message_scriptPage startFree stays]

/-- A script without an end tag is dropped with all that comes after its start tag. -/
theorem convert_unclosed_script (before rest : List Char) (free : '<' ∉ before)
    (noEndTag : ∀ blanks : List Char, (∀ char ∈ blanks, isBlank char = true) →
      ¬endTag "script".toList blanks <:+: rest)
    (stays : ScriptStaysOpen (trimStart before) (prepare {} (trimEnd rest))) :
    convert (String.ofList (before ++ "<script>".toList ++ rest)) {} =
      String.ofList (tidy (decodeReferences (trimStart before))) := by
  rw [convert, String.toList_ofList, List.append_assoc]
  exact congrArg String.ofList (convertText_scriptPage free noEndTag stays)

theorem convert_unclosed_script_completed :
    convert " a &amp; b\n<script>if (c) \"<p>d</style><br/><p>e<b>f</b>\" " {} = "a & b" := by
  have converted := convert_unclosed_script " a &amp; b\n".toList
    "if (c) \"<p>d</style><br/><p>e<b>f</b>\" ".toList (by decide)
    ((afterBody?_eq_none_iff _ _).mp (by decide +kernel)) (by decide +kernel)
  refine Eq.trans (congrArg (convert · {}) ?_) (converted.trans ?_)
  · decide +kernel
  · decide +kernel

/-- White space before the slash keeps an end tag from removal, but not from the readers. -/
theorem text_shown_after_script :
    ∃ before rest : List Char, '<' ∉ before ∧
      (∀ blanks : List Char, (∀ char ∈ blanks, isBlank char = true) →
        ¬endTag "script".toList blanks <:+: rest) ∧
      convert (String.ofList (before ++ "<script>".toList ++ rest)) {} ≠
        String.ofList (tidy (decodeReferences (trimStart before))) :=
  ⟨['a'], "< /script>b".toList, by decide, (afterBody?_eq_none_iff _ _).mp (by decide +kernel),
    by decide +kernel⟩

/-! ## Scripts without slashes -/

theorem slash_notMem_prepare {rest : List Char} (noSlash : '/' ∉ rest) :
    '/' ∉ prepare {} (trimEnd rest) := by
  have removed : '/' ∉ removeHidden {} (trimEnd rest) := fun member =>
    noSlash ((trimEndWhere_sublist isBlank rest).mem
      ((removeHiddenWhere_sublist _ _).mem member))
  rw [prepare, expandSelfClosing_of_slash_notMem removed]
  exact removed

theorem isSpace_head?_trimStart (text : List Char) :
    ∀ char ∈ (trimStart text).head?, Document.isSpace char = false := by
  intro char isFirst
  have notBlank := List.head?_dropWhile_not isBlank text
  rw [trimStart, Option.mem_def] at isFirst
  rw [isFirst] at notBlank
  rw [Bool.eq_false_iff]
  intro isSpace
  simp only [Document.isSpace, Bool.or_eq_true, beq_iff_eq] at isSpace
  rcases isSpace with (((rfl | rfl) | rfl) | rfl) | rfl <;> cases notBlank

theorem scriptStaysOpen_of_slash_notMem {text content : List Char}
    (plain : Document.PlainText text) (noMark : Document.byteOrderMark ∉ text)
    (shows : ∀ char ∈ text.head?, Document.isSpace char = false) (noSlash : '/' ∉ content) :
    ScriptStaysOpen text content := by
  have free : '<' ∉ text := fun member => plain '<' member (by decide)
  have noReference : '&' ∉ text := fun member => plain '&' member (by decide)
  have noBracket : '<' ∉ "script".toList := by decide
  rw [ScriptStaysOpen]
  split
  · rcases @Document.texts_of_slash_notMem text content free noSlash (scriptPage text content) rfl
      with ⟨unended, scriptFree, sameText⟩
    refine ⟨unended, ?_, ?_⟩
    · rw [expandSelfClosing_of_slash_notMem scriptFree]
      exact Markup.Reader.leavesOpen_of_slash_notMem noBracket scriptFree
    · rw [sameText, Document.textTokens_plainText plain noMark,
        Document.leadingText_ofText shows, decodeReferences_of_free noReference]
  · exact Markup.Reader.leavesOpen_of_slash_notMem noBracket noSlash

/-- A script without slashes after a text without references shows only the text, whatever else is
in the script. -/
theorem convert_script_without_slashes (before rest : List Char)
    (plain : Document.PlainText before) (noMark : Document.byteOrderMark ∉ before)
    (noSlash : '/' ∉ rest) :
    convert (String.ofList (before ++ "<script>".toList ++ rest)) {} =
      String.ofList (tidy (trimStart before)) := by
  have fromStart : (trimStart before).Sublist before := List.dropWhile_sublist isBlank
  have startPlain : Document.PlainText (trimStart before) := fun char member =>
    plain char (fromStart.mem member)
  have free : '<' ∉ before := fun member => plain '<' member (by decide)
  have noReference : '&' ∉ trimStart before := fun member => startPlain '&' member (by decide)
  have noEndTag : NoEndTag "script".toList rest := by
    intro blanks _ found
    exact noSlash (found.mem (List.mem_cons_of_mem _ List.mem_cons_self))
  have stays : ScriptStaysOpen (trimStart before) (prepare {} (trimEnd rest)) :=
    scriptStaysOpen_of_slash_notMem startPlain (fun member => noMark (fromStart.mem member))
      (isSpace_head?_trimStart before) (slash_notMem_prepare noSlash)
  have shown := convertText_scriptPage free noEndTag stays
  rw [decodeReferences_of_free noReference] at shown
  rw [convert, String.toList_ofList, List.append_assoc]
  exact congrArg String.ofList shown

end ChatMarkup
