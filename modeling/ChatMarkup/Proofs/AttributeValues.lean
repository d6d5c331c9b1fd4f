import ChatMarkup.Proofs.HiddenElements
import ChatMarkup.Proofs.NestedReading
import ChatMarkup.Proofs.OmittedEndTags

/-!
Links show their text, whatever the value of their attribute is. Removing hidden elements and
expanding self-closing tags may change such a value, but they never reach beyond its closing quote,
so that the damaged tag is still read as one tag with the same text behind it.
-/

namespace ChatMarkup

open Text

namespace Source

/-! ## Hidden elements in a value -/

section Value

variable {anyCase : Bool} {name value rest after : List Char}

theorem matchesLetter_quote {letter : Char} (different : letter ≠ '"') :
    matchesLetter anyCase letter '"' = false := by
  have lowered : Char.toLower '"' = '"' := by decide
  simp [matchesLetter, lowered, different.symm]

/-- A name does not reach over a quote. -/
theorem afterName?_append_quote (noQuote : '"' ∉ name)
    (found : afterName? anyCase name (value ++ '"' :: rest) = some after) :
    ∃ left, after = left ++ '"' :: rest ∧ left <:+ value := by
  induction name generalizing value with
  | nil => exact ⟨value, (Option.some.inj found).symm, List.suffix_rfl⟩
  | cons letter name induction =>
      rw [List.mem_cons, not_or] at noQuote
      cases value with
      | nil =>
          rw [List.nil_append, afterName?, matchesLetter_quote (Ne.symm noQuote.1)] at found
          cases found
      | cons char value =>
          rw [List.cons_append, afterName?] at found
          split at found
          · rcases induction noQuote.2 found with ⟨left, whole, within⟩
            exact ⟨left, whole, within.trans (List.suffix_cons char value)⟩
          · cases found

theorem afterEndTag?_append_quote (hidden : name ∈ hiddenNames)
    (found : afterEndTag? anyCase name (value ++ '"' :: rest) = some after) :
    ∃ left, after = left ++ '"' :: rest ∧ left <:+ value := by
  have noQuote : ∀ name ∈ hiddenNames, '"' ∉ '<' :: '/' :: name := by decide
  rw [afterEndTag?] at found
  split at found
  · cases found
  · rename_i source named
    rcases afterName?_append_quote (noQuote name hidden) named with ⟨blanks, rfl, within⟩
    have stopped : trimStart (blanks ++ '"' :: rest) = trimStart blanks ++ '"' :: rest :=
      dropWhile_append_cons blanks (by decide) rest
    rw [stopped] at found
    have dropped : trimStart blanks <:+ blanks := List.dropWhile_suffix isBlank
    cases trimmed : trimStart blanks with
    | nil =>
        rw [trimmed] at found
        cases found
    | cons bracket left =>
        rw [trimmed] at found dropped
        split at found
        · rename_i tail split
          rcases List.cons.inj split with ⟨rfl, rfl⟩
          exact ⟨left, (Option.some.inj found).symm,
            ((List.suffix_cons _ left).trans dropped).trans within⟩
        · cases found

theorem afterBody?_quote (name rest : List Char) :
    afterBody? anyCase name ('"' :: rest) = afterBody? anyCase name rest :=
  afterBody?_append_of_free (by decide : '<' ∉ ['"']) name rest

/-- The end tag of a hidden element stands before a quote or behind it. -/
theorem afterBody?_append_quote (hidden : name ∈ hiddenNames)
    (absent : afterBody? anyCase name rest = none)
    (found : afterBody? anyCase name (value ++ '"' :: rest) = some after) :
    ∃ left, after = left ++ '"' :: rest ∧ left <:+ value := by
  induction value with
  | nil =>
      rw [List.nil_append, afterBody?_quote, absent] at found
      cases found
  | cons char value induction =>
      rw [List.cons_append, afterBody?] at found
      split at found
      · rename_i ended
        rw [Option.some.inj found] at ended
        exact afterEndTag?_append_quote hidden ended
      · rcases induction found with ⟨left, whole, within⟩
        exact ⟨left, whole, within.trans (List.suffix_cons char value)⟩

/-- A hidden element that begins in a value ends there. -/
theorem afterHidden?_append_quote
    (absent : ∀ hidden ∈ hiddenNames, afterBody? anyCase hidden rest = none)
    (found : afterHidden? anyCase (value ++ '"' :: rest) = some after) :
    ∃ left, after = left ++ '"' :: rest ∧ left <:+ value := by
  rcases List.exists_of_findSome?_eq_some found with ⟨name, hidden, element⟩
  rw [afterElement?] at element
  split at element
  · cases element
  · rename_i body started
    have within := afterStartTag?_suffix started
    have quoteWithin : '"' :: rest <:+ value ++ '"' :: rest := List.suffix_append _ _
    rcases List.suffix_or_suffix_of_suffix within quoteWithin with behind | before
    -- A start tag may go on behind the quote, but then there is no end tag to be found.
    · have absentBehind := (afterBody?_quote name rest).trans (absent name hidden)
      rw [afterBody?_of_suffix behind absentBehind] at element
      cases element
    · rcases before with ⟨inner, rfl⟩
      rcases afterBody?_append_quote hidden (absent name hidden) element with ⟨left, rfl, inInner⟩
      exact ⟨left, rfl, inInner.trans ((List.suffix_append_inj_of_length_eq rfl).mp within).1⟩

/-- Removal takes something out of a value at most. -/
theorem exists_removeHiddenWhere_append_quote (value : List Char)
    (absent : ∀ hidden ∈ hiddenNames, afterBody? anyCase hidden rest = none) :
    ∃ kept, removeHiddenWhere anyCase (value ++ '"' :: rest) = kept ++ '"' :: rest ∧
      kept.Sublist value := by
  cases found : afterHidden? anyCase (value ++ '"' :: rest) with
  | none =>
      cases value with
      | nil =>
          have absentBehind : ∀ hidden ∈ hiddenNames,
              afterBody? anyCase hidden ('"' :: rest) = none :=
            fun hidden member => (afterBody?_quote hidden rest).trans (absent hidden member)
          exact ⟨[], removeHiddenWhere_of_suffix List.suffix_rfl absentBehind, List.Sublist.refl _⟩
      | cons char value =>
          rcases exists_removeHiddenWhere_append_quote value absent with ⟨kept, removed, within⟩
          refine ⟨char :: kept, ?_, within.cons_cons char⟩
          rw [List.cons_append] at found ⊢
          rw [removeHiddenWhere_cons found, removed, List.cons_append]
  | some after =>
      -- Removal goes on behind the element, with what is left of the value.
      have shorter := length_afterHidden?_lt found
      rcases afterHidden?_append_quote absent found with ⟨left, rfl, inValue⟩
      rcases exists_removeHiddenWhere_append_quote left absent with ⟨kept, removed, within⟩
      refine ⟨kept, ?_, within.trans inValue.sublist⟩
      rw [removeHiddenWhere_of_found found, removed]
termination_by value.length
decreasing_by
  · exact Nat.lt_succ_self _
  · simpa using shorter

end Value

end Source

/-! ## Links -/

open Source Markup

def link (address text : List Char) : List Char :=
  '<' :: ("a href=\"".toList ++ (address ++ '"' :: '>' :: (text ++ Node.endTag "a")))

theorem plainName_a : PlainName "a".toList := ⟨by decide, by decide⟩

theorem trim_link (address text : List Char) : trim (link address text) = link address text := by
  have page : link address text =
      '<' :: ("a href=\"".toList ++ (address ++ '"' :: '>' :: (text ++ ['<', '/', 'a'])) ++
        ['>']) := by
    simp [link, Node.endTag]
  rw [page, trim_bracketed]

/-- Removing hidden elements changes nothing but the address. -/
theorem exists_removeHidden_link (options : Options) (address : List Char) {text : List Char}
    (free : '<' ∉ text) :
    ∃ kept, removeHidden options (link address text) = link kept text ∧ kept.Sublist address := by
  have plain : PlainPage ('>' :: (text ++ Node.endTag "a")) :=
    .char (by decide) ((PlainPage.text free).append (Node.plainPage_endTag plainName_a))
  have absent : ∀ hidden ∈ hiddenNames,
      afterBody? options.lowercaseTags hidden ('>' :: (text ++ Node.endTag "a")) = none :=
    fun hidden member => plain.afterBody? member
  rcases exists_removeHiddenWhere_append_quote address absent with ⟨kept, removed, within⟩
  have shown : ∀ anyCase rest,
      afterHidden? anyCase ('<' :: ("a href=\"".toList ++ rest)) = none := by
    intro anyCase rest
    have tag : "a href=\"".toList = 'a' :: " href=\"".toList := by decide
    rw [tag]
    cases anyCase <;> rfl
  have tagFree : '<' ∉ "a href=\"".toList := by decide
  refine ⟨kept, ?_, within⟩
  rw [removeHidden, link, removeHiddenWhere_cons (shown _ _),
    removeHiddenWhere_append_of_free tagFree, removed, link]

/-- Expanding self-closing tags changes nothing but the address. -/
theorem exists_expandSelfClosing_link {address text : List Char} (noQuote : '"' ∉ address)
    (free : '<' ∉ text) :
    ∃ tag, expandSelfClosing (link address text) = tag ++ (text ++ Node.endTag "a") ∧
      unquoted false tag = "<a href=\"\">".toList := by
  have whole : link address text =
      '<' :: ("a href=\"".toList ++ (address ++ ['"'])) ++ '>' :: (text ++ Node.endTag "a") := by
    simp [link]
  have textPlain : PlainPage (text ++ Node.endTag "a") :=
    (PlainPage.text free).append (Node.plainPage_endTag plainName_a)
  have outside : unquoted false ('<' :: ("a href=\"".toList ++ (address ++ ['"'])) ++ ['>']) =
      "<a href=\"\">".toList := by
    have tag : '<' :: ("a href=\"".toList ++ (address ++ ['"'])) ++ ['>'] =
        "<a href=\"".toList ++ (address ++ ['"', '>']) := by
      simp
    have opened : endsInside false "<a href=\"".toList = true := by decide
    rw [tag, unquoted_append, opened, unquoted_append, unquoted_true_of_free noQuote,
      endsInside_of_free noQuote]
    decide
  refine ⟨_, ?_, (unquoted_expandSelfClosing ?_).trans outside⟩
  · rw [whole, expandSelfClosing_append_bracket, textPlain.expandSelfClosing]
  · rw [outside]
    decide

/-- The tag is read to its element, whatever stands in the value. -/
theorem read_link {tag text : List Char} (outside : unquoted false tag = "<a href=\"\">".toList)
    (free : '<' ∉ text) : Markup.read (tag ++ (text ++ Node.endTag "a")) = [item "a" text] := by
  have spelled : "<a href=\"\">".toList =
      '<' :: "a".toList ++ (Reader.spelled ["href".toList] ++ ['>']) := by decide
  have opened : tag.foldl Reader.step .start = Reader.start.push "a" :=
    @Reader.foldl_step_tag .start "a" ["href".toList] (by decide) (by decide) tag
      (outside.trans spelled) (.inl rfl)
  have between : (Reader.start.push "a").phase = .between := rfl
  rcases Reader.foldl_step_textNodes free between with ⟨textBreak, settled⟩
  have closed := @Reader.foldl_step_endTag "a" (by decide) _ textBreak
  rw [settled, Reader.closeNamed_addAll_push] at closed
  rw [Markup.read, List.foldl_append, List.foldl_append, opened, closed]
  rfl

theorem convertText_link (options : Options) {address text : List Char}
    (noQuote : '"' ∉ address) (free : '<' ∉ text) :
    convertText options (link address text) = tidy (shownText options text) := by
  rcases exists_removeHidden_link options address free with ⟨kept, removed, within⟩
  have keptFree : '"' ∉ kept := fun member => noQuote (within.mem member)
  rcases exists_expandSelfClosing_link keptFree free with ⟨tag, expanded, outside⟩
  have nodes := read_link outside free
  have nested : Node.areMisnested (Markup.read (tag ++ (text ++ Node.endTag "a"))) = false := by
    rw [nodes]
    exact Node.areMisnested_of_areWellFormed
      (areWellFormed_singleton (isWellFormed_item plainName_a (by decide) free))
  have named : elementRule options "a" = .passThrough :=
    (elementRule_of_lower options (by decide)).trans (by decide)
  rw [convertText_eq_message, trim_link, prepare, removed, expanded,
    pageNodes_of_not_misnested nested, nodes, message_eq, Node.formatAll, Node.formatAll,
    format_item options named (fun _ _ => rfl) rfl, List.append_nil]
  rfl

/-- A link shows its text and nothing of its address, whatever markup stands in the address. -/
theorem convert_link (options : Options) (address text : String)
    (noQuote : '"' ∉ address.toList) (free : '<' ∉ text.toList) :
    convert ("<a href=\"" ++ address ++ "\">" ++ text ++ "</a>") options =
      String.ofList
        (tidy (if options.decodeEntities then decodeReferences text.toList else text.toList)) := by
  have page : ("<a href=\"" ++ address ++ "\">" ++ text ++ "</a>").toList =
      link address.toList text.toList := by
    simp [link, Node.endTag]
  rw [convert, page, convertText_link options noQuote free, shownText]

theorem convert_link_mixed :
    convert "<a href=\"x<script>y</script\n><b/><p>\n<style>\">a \"b\" &gt;\n </a>" {} =
      "a \"b\" >" := by
  have converted := convert_link {} "x<script>y</script\n><b/><p>\n<style>" "a \"b\" &gt;\n "
    (by decide) (by decide)
  refine Eq.trans (congrArg (convert · {}) ?_) (converted.trans ?_)
  · decide +kernel
  · decide +kernel

end ChatMarkup
