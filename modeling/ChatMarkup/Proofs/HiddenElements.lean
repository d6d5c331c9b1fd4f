import ChatMarkup.Proofs.HiddenTags
import ChatMarkup.Proofs.WrittenPage

/-!
A script or style element that has an end tag is removed with all that stands in it. Its start tag
is where removal begins, its own end tag is where removal stops, and what the element parts does not
run together to a tag of another hidden element.
-/

namespace ChatMarkup

open Text

namespace Source

/-! ## The source of an element -/

def endTag (name blanks : List Char) : List Char := '<' :: '/' :: (name ++ (blanks ++ ['>']))

def hiddenElement (name attributes body blanks : List Char) : List Char :=
  '<' :: (name ++ (attributes ++ '>' :: (body ++ endTag name blanks)))

theorem bracket_notMem_of_mem_hiddenNames {name : List Char} (hidden : name ∈ hiddenNames) :
    '<' ∉ name := fun member =>
  ne_of_isPlainChar (isPlainChar_of_mem_hiddenNames hidden _ member) (by decide) rfl

theorem bracket_notMem_of_blank {blanks : List Char}
    (blank : ∀ char ∈ blanks, isBlank char = true) : '<' ∉ blanks := fun member =>
  absurd (blank _ member) (by decide)

def blankCodes : List Nat :=
  [0x9, 0xA, 0xB, 0xC, 0xD, 0x20, 0x85, 0xA0, 0x1680, 0x2000, 0x2001, 0x2002, 0x2003, 0x2004,
    0x2005, 0x2006, 0x2007, 0x2008, 0x2009, 0x200A, 0x2028, 0x2029, 0x202F, 0x205F, 0x3000]

theorem toNat_mem_blankCodes {char : Char} (blank : isBlank char = true) :
    char.toNat ∈ blankCodes := by
  simp only [isBlank, Bool.or_eq_true, Bool.and_eq_true, decide_eq_true_eq, beq_iff_eq] at blank
  simp only [blankCodes, List.mem_cons, List.not_mem_nil]
  omega

theorem isWord_of_isBlank {char : Char} (blank : isBlank char = true) : isWord char = false := by
  have checked : blankCodes.all (fun code => wordRanges.all fun range =>
      !(range.1 ≤ code && code ≤ range.2)) = true := by decide +kernel
  have apart := List.all_eq_true.mp checked _ (toNat_mem_blankCodes blank)
  rw [isWord, List.any_eq_false]
  intro range member
  exact Bool.eq_false_iff.mp (Bool.not_eq_true' _ ▸ List.all_eq_true.mp apart range member)

/-! ## Finding the tags -/

section Found

variable {anyCase : Bool} {name blanks : List Char}

theorem afterStartTag?_tag {attributes : List Char} (oneTag : '>' ∉ attributes)
    (separated : attributes.head?.all isBlank = true) (name body : List Char) :
    afterStartTag? anyCase name ('<' :: (name ++ (attributes ++ '>' :: body))) = some body := by
  have wordEnds : attributes.head?.any isWord = false := by
    cases attributes with
    | nil => rfl
    | cons first rest => exact isWord_of_isBlank separated
  exact afterStartTag?_eq_some_iff.mpr ⟨_, attributes, .refl _ _, oneTag, wordEnds, rfl⟩

theorem isEndTag_endTag (blank : ∀ char ∈ blanks, isBlank char = true) (name : List Char) :
    IsEndTag anyCase name (endTag name blanks) :=
  ⟨_, blanks, .refl _ _, blank, rfl⟩

theorem afterEndTag?_endTag (blank : ∀ char ∈ blanks, isBlank char = true)
    (name rest : List Char) :
    afterEndTag? anyCase name (endTag name blanks ++ rest) = some rest :=
  afterEndTag?_eq_some_iff.mpr ⟨_, isEndTag_endTag blank name, rfl⟩

/-- As long as case matters, an end tag is found where it is written. -/
theorem exists_endTag_of_afterEndTag? {source after : List Char}
    (found : afterEndTag? false name source = some after) :
    ∃ blanks, (∀ char ∈ blanks, isBlank char = true) ∧ source = endTag name blanks ++ after := by
  rcases afterEndTag?_eq_some_iff.mp found with ⟨-, ⟨letters, blanks, spells, blank, rfl⟩, rfl⟩
  rw [spells.eq]
  exact ⟨blanks, blank, rfl⟩

end Found

/-! ## The first end tag -/

/-- What has no bracket in it and begins a page stands before the first bracket of the page. -/
theorem prefix_of_prefix_append_bracket {pattern text rest : List Char} (free : '<' ∉ pattern)
    (starts : pattern <+: text ++ '<' :: rest) : pattern <+: text := by
  induction pattern generalizing text with
  | nil => exact List.nil_prefix
  | cons letter pattern induction =>
      rw [List.mem_cons, not_or] at free
      cases text with
      | nil => exact absurd (List.cons_prefix_cons.mp starts).1.symm free.1
      | cons char text =>
          rcases List.cons_prefix_cons.mp starts with ⟨rfl, restStarts⟩
          exact List.cons_prefix_cons.mpr ⟨rfl, induction free.2 restStarts⟩

theorem bracket_notMem_endTag {name blanks : List Char} (hidden : name ∈ hiddenNames)
    (blank : ∀ char ∈ blanks, isBlank char = true) : '<' ∉ '/' :: (name ++ (blanks ++ ['>'])) := by
  simp [bracket_notMem_of_mem_hiddenNames hidden, bracket_notMem_of_blank blank]

def NoEndTag (name text : List Char) : Prop :=
  ∀ blanks : List Char, (∀ char ∈ blanks, isBlank char = true) → ¬endTag name blanks <:+: text

theorem NoEndTag.of_infix {name text part : List Char} (none : NoEndTag name text)
    (within : part <:+: text) : NoEndTag name part := fun blanks blank found =>
  none blanks blank (found.trans within)

theorem afterBody?_endTag {anyCase : Bool} {name blanks : List Char}
    (blank : ∀ char ∈ blanks, isBlank char = true) (rest : List Char) :
    afterBody? anyCase name (endTag name blanks ++ rest) = some rest := by
  have ended := @afterEndTag?_endTag anyCase blanks blank name rest
  rw [endTag, List.cons_append] at ended ⊢
  rw [afterBody?, ended]

/-- The search for an end tag stops at the first one that is written. -/
theorem afterBody?_append_endTag {name body blanks : List Char} (hidden : name ∈ hiddenNames)
    (none : NoEndTag name body) (blank : ∀ char ∈ blanks, isBlank char = true)
    (rest : List Char) :
    afterBody? false name (body ++ (endTag name blanks ++ rest)) = some rest := by
  induction body with
  | nil => exact afterBody?_endTag blank rest
  | cons char body induction =>
      have noEndTag : afterEndTag? false name
          (char :: (body ++ (endTag name blanks ++ rest))) = Option.none := by
        rw [Option.eq_none_iff_forall_ne_some]
        intro after found
        rcases exists_endTag_of_afterEndTag? found with ⟨gap, gapBlank, whole⟩
        have starts : endTag name gap <+: char :: (body ++ (endTag name blanks ++ rest)) :=
          ⟨after, whole.symm⟩
        rw [endTag, endTag, List.cons_append, List.cons_prefix_cons] at starts
        rcases starts with ⟨rfl, starts⟩
        have inBody := prefix_of_prefix_append_bracket
          (bracket_notMem_endTag hidden gapBlank) starts
        exact none gap gapBlank (List.cons_prefix_cons.mpr ⟨rfl, inBody⟩).isInfix
      rw [List.cons_append, afterBody?, noEndTag]
      exact induction (none.of_infix (List.suffix_cons char body).isInfix)

/-- The search for an end tag fails exactly where none is written. -/
theorem afterBody?_eq_none_iff (name text : List Char) :
    afterBody? false name text = none ↔ NoEndTag name text := by
  rw [← Option.not_isSome_iff_eq_none, isSome_afterBody?_iff]
  constructor
  · rintro absent blanks blank ⟨front, rest, rfl⟩
    exact absent ⟨front, _, rest, isEndTag_endTag blank name, List.append_assoc ..⟩
  · rintro none ⟨body, -, after, ⟨letters, blanks, spells, blank, rfl⟩, rfl⟩
    rw [spells.eq] at none
    exact none blanks blank ⟨body, after, List.append_assoc ..⟩

/-! ## Removal -/

theorem removeHiddenWhere_append_of_free {anyCase : Bool} {text : List Char} (free : '<' ∉ text)
    (rest : List Char) :
    removeHiddenWhere anyCase (text ++ rest) = text ++ removeHiddenWhere anyCase rest := by
  induction text with
  | nil => rfl
  | cons char text induction =>
      rw [List.mem_cons, not_or] at free
      have shown : afterHidden? anyCase (char :: (text ++ rest)) = none := by
        rw [afterHidden?, List.findSome?_eq_none_iff]
        intro name _
        have unnamed : afterName? anyCase ('<' :: name) (char :: (text ++ rest)) = none := by
          simp [afterName?, matchesLetter_bracket_of_ne (Ne.symm free.1)]
        rw [afterElement?, afterStartTag?, unnamed]
      rw [List.cons_append, removeHiddenWhere_cons shown, induction free.2, List.cons_append]

/-- No start tag of a hidden element begins in a text that holds none, whatever tag comes next. -/
theorem removeHiddenWhere_append_bracket {before : List Char}
    (noStartTag : ∀ name ∈ hiddenNames, ¬ '<' :: name <:+: before) (rest : List Char) :
    removeHiddenWhere false (before ++ '<' :: rest) =
      before ++ removeHiddenWhere false ('<' :: rest) := by
  induction before with
  | nil => rfl
  | cons char before induction =>
      have shown : afterHidden? false (char :: (before ++ '<' :: rest)) = none := by
        rw [afterHidden?, List.findSome?_eq_none_iff]
        intro name hidden
        have unnamed : afterName? false ('<' :: name) (char :: (before ++ '<' :: rest)) = none := by
          rw [Option.eq_none_iff_forall_ne_some]
          intro after found
          rcases afterName?_eq_some_iff.mp found with ⟨letters, spells, whole⟩
          have starts : '<' :: name <+: char :: (before ++ '<' :: rest) :=
            ⟨after, by rw [whole, spells.eq]⟩
          rcases List.cons_prefix_cons.mp starts with ⟨rfl, nameStarts⟩
          have inBefore := prefix_of_prefix_append_bracket
            (bracket_notMem_of_mem_hiddenNames hidden) nameStarts
          exact noStartTag name hidden (List.cons_prefix_cons.mpr ⟨rfl, inBefore⟩).isInfix
        rw [afterElement?, afterStartTag?, unnamed]
      have restFree : ∀ name ∈ hiddenNames, ¬ '<' :: name <:+: before := fun name hidden found =>
        noStartTag name hidden (found.trans (List.suffix_cons char before).isInfix)
      rw [List.cons_append, removeHiddenWhere_cons shown, induction restFree, List.cons_append]

/-- A hidden element is found by its own name only. -/
theorem afterHidden?_of_afterElement? {name rest after : List Char} (hidden : name ∈ hiddenNames)
    (found : afterElement? false ('<' :: (name ++ rest)) name = some after) :
    afterHidden? false ('<' :: (name ++ rest)) = some after := by
  rw [hiddenNames, List.mem_cons, List.mem_singleton] at hidden
  rcases hidden with rfl | rfl
  · rw [afterHidden?, hiddenNames, List.findSome?_cons, found]
  · have noScript : afterElement? false ('<' :: ("style".toList ++ rest)) "script".toList = none :=
      rfl
    rw [afterHidden?, hiddenNames, List.findSome?_cons, noScript, List.findSome?_cons, found]

theorem removeHiddenWhere_of_found {anyCase : Bool} {source after : List Char}
    (found : afterHidden? anyCase source = some after) :
    removeHiddenWhere anyCase source = removeHiddenWhere anyCase after := by
  cases source with
  | nil => cases found
  | cons char rest =>
      rw [removeHiddenWhere]
      split
      · rename_i again
        rw [found] at again
        rw [Option.some.inj again]
      · rename_i again
        rw [found] at again
        cases again

theorem removeHiddenWhere_hiddenElement {name attributes body blanks : List Char}
    (hidden : name ∈ hiddenNames) (oneTag : '>' ∉ attributes)
    (separated : attributes.head?.all isBlank = true) (none : NoEndTag name body)
    (blank : ∀ char ∈ blanks, isBlank char = true) (rest : List Char) :
    removeHiddenWhere false (hiddenElement name attributes body blanks ++ rest) =
      removeHiddenWhere false rest := by
  have whole : hiddenElement name attributes body blanks ++ rest =
      '<' :: (name ++ (attributes ++ '>' :: (body ++ (endTag name blanks ++ rest)))) := by
    simp [hiddenElement]
  have found : afterElement? false (hiddenElement name attributes body blanks ++ rest) name =
      some rest := by
    rw [whole, afterElement?, afterStartTag?_tag oneTag separated]
    exact afterBody?_append_endTag hidden none blank rest
  rw [whole] at found ⊢
  exact removeHiddenWhere_of_found (afterHidden?_of_afterElement? hidden found)

end Source

/-! ## The message -/

open Source

/-- A page is trimmed and rid of its hidden elements on either side of a bracket, if no start tag of
a hidden element stands before the bracket. -/
theorem removeHidden_trim {options : Options} (keepsCase : options.lowercaseTags = false)
    {before : List Char} (noStartTag : ∀ name ∈ hiddenNames, ¬ '<' :: name <:+: before)
    (rest : List Char) :
    removeHidden options (trim (before ++ '<' :: rest)) =
      trimStart before ++ removeHidden options ('<' :: trimEnd rest) := by
  have trimmedFree : ∀ name ∈ hiddenNames, ¬ '<' :: name <:+: trimStart before :=
    fun name hidden found =>
      noStartTag name hidden (found.trans (List.dropWhile_suffix isBlank).isInfix)
  rw [trim_append_cons before (by decide), removeHidden, removeHidden, keepsCase,
    removeHiddenWhere_append_bracket trimmedFree]

/-- A page with a script or style element has the message that it has without the element. -/
theorem convert_hidden_element (options : Options) (keepsCase : options.lowercaseTags = false)
    (name : List Char) (hidden : name ∈ hiddenNames)
    (before attributes body blanks after : List Char)
    (noStartTag : ∀ other ∈ hiddenNames, ¬ '<' :: other <:+: before)
    (oneTag : '>' ∉ attributes) (separated : attributes.head?.all isBlank = true)
    (noEndTag : ∀ gap : List Char, (∀ char ∈ gap, isBlank char = true) →
      ¬endTag name gap <:+: body)
    (blank : ∀ char ∈ blanks, isBlank char = true) (tagFollows : after.head? = some '<') :
    convert (String.ofList (before ++ hiddenElement name attributes body blanks ++ after)) options =
      convert (String.ofList (before ++ after)) options := by
  rcases List.head?_eq_some_iff.mp tagFollows with ⟨rest, rfl⟩
  have removed : removeHidden options
      (trim (before ++ hiddenElement name attributes body blanks ++ '<' :: rest)) =
        removeHidden options (trim (before ++ '<' :: rest)) := by
    have trimmed : '<' :: trimEnd (name ++ (attributes ++ '>' :: (body ++ endTag name blanks)) ++
        '<' :: rest) = hiddenElement name attributes body blanks ++ '<' :: trimEnd rest :=
      congrArg _ (trimEndWhere_append_cons _ (by decide) rest)
    rw [List.append_assoc]
    change removeHidden options (trim (before ++ '<' :: (_ ++ '<' :: rest))) = _
    rw [removeHidden_trim keepsCase noStartTag, removeHidden_trim keepsCase noStartTag, trimmed,
      removeHidden, keepsCase,
      removeHiddenWhere_hiddenElement hidden oneTag separated noEndTag blank, removeHidden,
      keepsCase]
  rw [convert, convert, String.toList_ofList, String.toList_ofList, convertText_eq_message,
    convertText_eq_message, prepare, prepare, removed]

theorem convert_hidden_element_mixed :
    convert " <i>a</i></style> <script x>b < c</script x><style>d</style></scr</script\n><b>e</b> "
      {} = "_a_ *e*" := by
  have converted := convert_hidden_element {} rfl "script".toList (by decide)
    " <i>a</i></style> ".toList " x".toList
    "b < c</script x><style>d</style></scr".toList "\n".toList "<b>e</b> ".toList
    (by decide +kernel) (by decide +kernel) (by decide +kernel)
    ((afterBody?_eq_none_iff _ _).mp (by decide +kernel)) (List.all_eq_true.mp (by decide))
    (by decide)
  refine Eq.trans (congrArg (convert · {}) ?_) (converted.trans ?_)
  · decide +kernel
  · decide +kernel

end ChatMarkup
