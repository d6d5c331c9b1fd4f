import Mathlib.Data.List.Basic
import Mathlib.Data.List.TakeDrop
import ChatMarkup.Convert

/-!
Pages of plain tags and text: no attributes, no comments, and no script or style elements. There is
nothing in them to remove and nothing to expand, so such a page is prepared as it is.
-/

namespace ChatMarkup

open Text Source

/-! ## Names -/

def isPlainChar (char : Char) : Bool := char.isLower || char.isDigit || char == '-'

/-- The plain characters are a few of the first code points, so that what holds of each of those
holds of every plain character. -/
theorem forall_isPlainChar (property : Char → Prop)
    (holds : ∀ code < 128, isPlainChar (Char.ofNat code) = true → property (Char.ofNat code))
    {char : Char} (plain : isPlainChar char = true) : property char := by
  have small : char.toNat < 128 := by
    rw [isPlainChar, Bool.or_eq_true, Bool.or_eq_true, beq_iff_eq] at plain
    rcases plain with (lower | digit) | rfl
    · exact Nat.lt_of_le_of_lt (of_decide_eq_true (Bool.and_eq_true _ _ |>.mp lower).2) (by decide)
    · exact Nat.lt_of_le_of_lt (of_decide_eq_true (Bool.and_eq_true _ _ |>.mp digit).2) (by decide)
    · decide
  have checked := holds char.toNat small
  rw [Char.ofNat_toNat] at checked
  exact checked plain

theorem isAlpha_of_isLower {char : Char} (lower : char.isLower = true) : char.isAlpha = true :=
  Bool.or_eq_true_iff.mpr (.inr lower)

theorem toLower_of_isPlainChar {char : Char} (plain : isPlainChar char = true) :
    char.toLower = char :=
  forall_isPlainChar (fun char => char.toLower = char) (by decide +kernel) plain

theorem isBlank_of_isPlainChar {char : Char} (plain : isPlainChar char = true) :
    isBlank char = false :=
  forall_isPlainChar (fun char => isBlank char = false) (by decide +kernel) plain

theorem isTagNameChar_of_isPlainChar {char : Char} (plain : isPlainChar char = true) :
    isTagNameChar char = true :=
  forall_isPlainChar (fun char => isTagNameChar char = true) (by decide +kernel) plain

theorem ne_of_isPlainChar {char other : Char} (plain : isPlainChar char = true)
    (different : isPlainChar other = false) : char ≠ other := by
  rintro rfl
  rw [plain] at different
  cases different

def isTagName : List Char → Bool
  | [] => false
  | initial :: rest => initial.isLower && rest.all isPlainChar

structure PlainName (name : List Char) : Prop where
  isName : isTagName name = true
  shown : name ∉ hiddenNames

theorem exists_cons_of_isTagName {name : List Char} (isName : isTagName name = true) :
    ∃ initial rest, name = initial :: rest ∧ initial.isLower = true ∧
      ∀ char ∈ initial :: rest, isPlainChar char = true := by
  cases name with
  | nil => cases isName
  | cons initial rest =>
      simp only [isTagName, Bool.and_eq_true, List.all_eq_true] at isName
      refine ⟨initial, rest, rfl, isName.1, ?_⟩
      intro char member
      rcases List.mem_cons.mp member with rfl | member
      · simp [isPlainChar, isName.1]
      · exact isName.2 char member

theorem PlainName.exists_cons {name : List Char} (plain : PlainName name) :
    ∃ initial rest, name = initial :: rest ∧ initial.isLower = true ∧
      ∀ char ∈ initial :: rest, isPlainChar char = true :=
  exists_cons_of_isTagName plain.isName

theorem PlainName.notMem {name : List Char} (plain : PlainName name) {other : Char}
    (different : isPlainChar other = false) : other ∉ name := by
  rcases plain.exists_cons with ⟨initial, rest, rfl, -, plainChars⟩
  intro member
  exact ne_of_isPlainChar (plainChars other member) different rfl

inductive PlainPage : List Char → Prop where
  | nil : PlainPage []
  | char {char : Char} {rest : List Char} :
      char ≠ '<' → PlainPage rest → PlainPage (char :: rest)
  | startTag {name rest : List Char} :
      PlainName name → PlainPage rest → PlainPage ('<' :: (name ++ '>' :: rest))
  | endTag {name rest : List Char} :
      PlainName name → PlainPage rest → PlainPage ('<' :: '/' :: (name ++ '>' :: rest))

namespace PlainPage

theorem append {left right : List Char} (leftPlain : PlainPage left)
    (rightPlain : PlainPage right) : PlainPage (left ++ right) := by
  induction leftPlain with
  | nil => exact rightPlain
  | char different _ induction => exact .char different induction
  | startTag plain _ induction =>
      rw [List.cons_append, List.append_assoc, List.cons_append]
      exact .startTag plain induction
  | endTag plain _ induction =>
      rw [List.cons_append, List.cons_append, List.append_assoc, List.cons_append]
      exact .endTag plain induction

theorem text {content : List Char} (free : '<' ∉ content) : PlainPage content := by
  induction content with
  | nil => exact .nil
  | cons char rest induction =>
      rw [List.mem_cons, not_or] at free
      exact .char (Ne.symm free.1) (induction free.2)

end PlainPage

/-! ## Nothing is hidden -/

section Hidden

variable {anyCase : Bool}

theorem matchesLetter_self (letter : Char) : matchesLetter anyCase letter letter = true := by
  simp [matchesLetter]

/-- Case makes no difference to a plain character. -/
theorem matchesLetter_of_isPlainChar {letter char : Char} (plain : isPlainChar char = true)
    (matching : matchesLetter anyCase letter char = true) : letter = char := by
  have notLong : char ≠ 'ſ' := ne_of_isPlainChar plain (by decide)
  simp only [matchesLetter, toLower_of_isPlainChar plain, Bool.or_eq_true, Bool.and_eq_true,
    beq_iff_eq] at matching
  rcases matching with equal | ⟨-, equal | ⟨-, isLong⟩⟩
  · exact equal.symm
  · exact equal.symm
  · exact absurd isLong notLong

theorem matchesLetter_bracket {letter : Char} (plain : isPlainChar letter = true) :
    matchesLetter anyCase letter '>' = false := by
  have different : '>' ≠ letter := (ne_of_isPlainChar plain (by decide)).symm
  simp [matchesLetter, different, (by decide : Char.toLower '>' = '>')]

/-- A name is found at the start of a plain tag only if it is the start of the tag's name. -/
theorem afterName?_tag {letters name more rest : List Char}
    (plainLetters : ∀ letter ∈ letters, isPlainChar letter = true)
    (plainName : ∀ char ∈ name, isPlainChar char = true)
    (found : afterName? anyCase letters (name ++ '>' :: more) = some rest) :
    ∃ left, name = letters ++ left ∧ rest = left ++ '>' :: more := by
  induction letters generalizing name with
  | nil =>
      simp only [afterName?, Option.some.injEq] at found
      exact ⟨name, rfl, found.symm⟩
  | cons letter letters induction =>
      rw [List.forall_mem_cons] at plainLetters
      cases name with
      | nil => simp [afterName?, matchesLetter_bracket plainLetters.1] at found
      | cons char name =>
          rw [List.forall_mem_cons] at plainName
          rw [List.cons_append, afterName?] at found
          split at found
          · rename_i matching
            rcases matchesLetter_of_isPlainChar plainName.1 matching with rfl
            rcases induction plainLetters.2 plainName.2 found with ⟨left, rfl, rfl⟩
            exact ⟨left, rfl, rfl⟩
          · cases found

theorem isPlainChar_of_mem_hiddenNames {hidden : List Char} (member : hidden ∈ hiddenNames) :
    ∀ letter ∈ hidden, isPlainChar letter = true := by
  have checked : hiddenNames.all (·.all isPlainChar) = true := by decide
  exact List.all_eq_true.mp (List.all_eq_true.mp checked hidden member)

/-- The end tag of a plain name ends no hidden element. -/
theorem afterEndTag?_tag {hidden name : List Char} (member : hidden ∈ hiddenNames)
    (plain : PlainName name) (more : List Char) :
    afterEndTag? anyCase hidden ('<' :: '/' :: (name ++ '>' :: more)) = none := by
  rcases plain.exists_cons with ⟨initial, rest, named, -, plainChars⟩
  rw [← named] at plainChars
  rw [afterEndTag?]
  simp only [afterName?, matchesLetter_self, if_true]
  split
  · rfl
  · rename_i found
    rcases afterName?_tag (isPlainChar_of_mem_hiddenNames member) plainChars found with
      ⟨left, rfl, rfl⟩
    cases left with
    | nil =>
        refine absurd ?_ plain.shown
        rwa [List.append_nil]
    | cons char left =>
        have charPlain : isPlainChar char = true := plainChars char (by simp)
        have notBracket : char ≠ '>' := ne_of_isPlainChar charPlain (by decide)
        simp [trimStart, isBlank_of_isPlainChar charPlain, notBracket]

theorem eq_bracket_of_toLower {char : Char} (lowered : char.toLower = '<') : char = '<' := by
  delta Char.toLower at lowered
  split at lowered
  · rename_i upper
    have code := congrArg (·.val.toNat) lowered
    have low : 65 ≤ char.val.toNat := upper.1
    have high : char.val.toNat ≤ 90 := upper.2
    simp only [UInt32.toNat_add] at code
    change (char.val.toNat + 32) % 2 ^ 32 = 60 at code
    omega
  · exact lowered

/-- Only an opening bracket begins a tag. -/
theorem matchesLetter_bracket_of_ne {char : Char} (different : char ≠ '<') :
    matchesLetter anyCase '<' char = false := by
  have notLowered : char.toLower ≠ '<' := fun lowered => different (eq_bracket_of_toLower lowered)
  simp [matchesLetter, different, notLowered]

theorem afterEndTag?_of_ne {char : Char} (different : char ≠ '<') (name rest : List Char) :
    afterEndTag? anyCase name (char :: rest) = none := by
  simp [afterEndTag?, afterName?, matchesLetter_bracket_of_ne different]

/-! An end tag is looked for at every character, but only an opening bracket can begin one. -/

theorem afterBody?_append_of_free {text : List Char} (free : '<' ∉ text) (name rest : List Char) :
    afterBody? anyCase name (text ++ rest) = afterBody? anyCase name rest := by
  induction text with
  | nil => rfl
  | cons char text induction =>
      rw [List.mem_cons, not_or] at free
      rw [List.cons_append, afterBody?, afterEndTag?_of_ne (Ne.symm free.1)]
      exact induction free.2

theorem afterBody?_bracket {text name rest : List Char} (free : '<' ∉ text)
    (noEndTag : afterEndTag? anyCase name ('<' :: (text ++ rest)) = none) :
    afterBody? anyCase name ('<' :: (text ++ rest)) = afterBody? anyCase name rest := by
  rw [afterBody?, noEndTag]
  exact afterBody?_append_of_free free name rest

/-- The start tag of an element is not the end tag of any. -/
theorem afterEndTag?_startTag {name : List Char} (plain : PlainName name)
    (hidden rest : List Char) :
    afterEndTag? anyCase hidden ('<' :: (name ++ rest)) = none := by
  rcases plain.exists_cons with ⟨initial, tail, rfl, lower, plainChars⟩
  have unmatched : matchesLetter anyCase '/' initial = false := by
    rw [Bool.eq_false_iff]
    intro matching
    have isSlash := matchesLetter_of_isPlainChar (plainChars initial (by simp)) matching
    rw [← isSlash] at lower
    cases lower
  simp [afterEndTag?, afterName?, unmatched, matchesLetter_self]

theorem bracket_notMem_tag {name : List Char} (plain : PlainName name) : '<' ∉ name ++ ['>'] := by
  intro member
  rcases List.mem_append.mp member with inName | inBracket
  · exact plain.notMem (by decide) inName
  · cases List.mem_singleton.mp inBracket

theorem PlainPage.afterBody? {page hidden : List Char} (plainPage : PlainPage page)
    (member : hidden ∈ hiddenNames) : Source.afterBody? anyCase hidden page = none := by
  induction plainPage with
  | nil => rfl
  | char different _ induction =>
      rw [Source.afterBody?, afterEndTag?_of_ne different]
      exact induction
  | @startTag name rest plain _ induction =>
      have noEndTag := @afterEndTag?_startTag anyCase name plain hidden ('>' :: rest)
      rw [List.append_cons] at noEndTag ⊢
      rw [afterBody?_bracket (bracket_notMem_tag plain) noEndTag]
      exact induction
  | @endTag name rest plain _ induction =>
      have noEndTag := @afterEndTag?_tag anyCase hidden name member plain rest
      have free : '<' ∉ '/' :: (name ++ ['>']) := by
        rw [List.mem_cons, not_or]
        exact ⟨by decide, bracket_notMem_tag plain⟩
      rw [List.append_cons, ← List.cons_append] at noEndTag ⊢
      rw [afterBody?_bracket free noEndTag]
      exact induction

/-! Without any end tag no element is found, at whatever character it is looked for. -/

theorem afterBody?_of_suffix {name text page : List Char} (suffix : text <:+ page)
    (absent : afterBody? anyCase name page = none) : afterBody? anyCase name text = none := by
  rcases suffix with ⟨front, rfl⟩
  induction front with
  | nil => exact absent
  | cons char front induction =>
      rw [List.cons_append, afterBody?] at absent
      split at absent
      · cases absent
      · exact induction absent

theorem afterName?_suffix {name source rest : List Char}
    (found : afterName? anyCase name source = some rest) : rest <:+ source := by
  induction name generalizing source with
  | nil =>
      cases found
      exact List.suffix_rfl
  | cons letter name induction =>
      cases source with
      | nil => cases found
      | cons char source =>
          rw [afterName?] at found
          split at found
          · exact (induction found).trans (List.suffix_cons char source)
          · cases found

theorem afterStartTag?_suffix {name source body : List Char}
    (found : afterStartTag? anyCase name source = some body) : body <:+ source := by
  rw [afterStartTag?] at found
  split at found
  · cases found
  · rename_i rest named
    split at found
    · cases found
    · have dropped := @List.dropWhile_suffix _ rest (· != '>')
      split at found
      · cases found
      · rename_i bracket tail tagEnd
        cases found
        rw [tagEnd] at dropped
        exact ((List.suffix_cons bracket body).trans dropped).trans (afterName?_suffix named)

theorem afterHidden?_of_suffix {page text : List Char} (suffix : text <:+ page)
    (absent : ∀ hidden ∈ hiddenNames, afterBody? anyCase hidden page = none) :
    afterHidden? anyCase text = none := by
  rw [afterHidden?, List.findSome?_eq_none_iff]
  intro hidden member
  rw [afterElement?]
  split
  · rfl
  · rename_i body started
    exact afterBody?_of_suffix ((afterStartTag?_suffix started).trans suffix) (absent hidden member)

/-- A character that begins no hidden element stays. -/
theorem removeHiddenWhere_cons {char : Char} {rest : List Char}
    (shown : afterHidden? anyCase (char :: rest) = none) :
    removeHiddenWhere anyCase (char :: rest) = char :: removeHiddenWhere anyCase rest := by
  rw [removeHiddenWhere]
  split
  · rename_i found
    rw [shown] at found
    cases found
  · rfl

theorem removeHiddenWhere_of_suffix {page text : List Char} (suffix : text <:+ page)
    (absent : ∀ hidden ∈ hiddenNames, afterBody? anyCase hidden page = none) :
    removeHiddenWhere anyCase text = text := by
  induction text with
  | nil => rw [removeHiddenWhere]
  | cons char rest induction =>
      rw [removeHiddenWhere_cons (afterHidden?_of_suffix suffix absent),
        induction ((List.suffix_cons char rest).trans suffix)]

end Hidden

theorem removeHidden_of_no_endTag {options : Options} {page : List Char}
    (absent : ∀ hidden ∈ hiddenNames, afterBody? options.lowercaseTags hidden page = none) :
    removeHidden options page = page :=
  removeHiddenWhere_of_suffix List.suffix_rfl absent

theorem PlainPage.removeHidden {page : List Char} (plainPage : PlainPage page)
    (options : Options) : Source.removeHidden options page = page :=
  removeHidden_of_no_endTag fun _ member => plainPage.afterBody? member

/-! ## Nothing is self-closing -/

/-- A stretch that begins with a plain tag has no slash to lose. -/
theorem expandStretch_startTag {name : List Char} (isName : isTagName name = true)
    (more : List Char) : expandStretch (name ++ '>' :: more) = '<' :: (name ++ '>' :: more) := by
  rcases exists_cons_of_isTagName isName with ⟨initial, rest, rfl, lower, plainChars⟩
  have nameChars : ∀ char ∈ initial :: rest, isTagNameChar char = true := fun char member =>
    isTagNameChar_of_isPlainChar (plainChars char member)
  have isLetter := isAlpha_of_isLower lower
  have named : splitName? (initial :: rest ++ '>' :: more) =
      some (initial :: rest, '>' :: more) := by
    rw [List.cons_append, splitName?, if_pos isLetter, ← List.cons_append,
      List.span_eq_takeWhile_dropWhile, List.takeWhile_append_of_pos nameChars,
      List.dropWhile_append_of_pos nameChars]
    simp [(by decide : isTagNameChar '>' = false)]
  have noSlash : splitSlash? ('>' :: more) = none := by
    simp [splitSlash?, List.span_eq_takeWhile_dropWhile]
  rw [expandStretch, named]
  simp only [noSlash]

theorem expandStretch_endTag (more : List Char) :
    expandStretch ('/' :: more) = '<' :: '/' :: more :=
  rfl

/-- Every stretch of a plain page stays what it is. -/
theorem PlainPage.splitAtChar {page : List Char} (plainPage : PlainPage page) :
    ∃ front stretches, Text.splitAtChar '<' page = front :: stretches ∧
      ∀ stretch ∈ stretches, expandStretch stretch = '<' :: stretch := by
  induction plainPage with
  | nil => exact ⟨[], [], rfl, by simp⟩
  | @char char rest different _ induction =>
      rcases induction with ⟨front, stretches, split, kept⟩
      exact ⟨char :: front, stretches, by rw [Text.splitAtChar, if_neg different, split], kept⟩
  | @startTag name rest plain _ induction =>
      rcases induction with ⟨front, stretches, split, kept⟩
      refine ⟨[], (name ++ '>' :: front) :: stretches, ?_, ?_⟩
      · rw [Text.splitAtChar, if_pos rfl, List.append_cons,
          splitAtChar_append_of_free (bracket_notMem_tag plain) split, ← List.append_cons]
      · rw [List.forall_mem_cons]
        exact ⟨expandStretch_startTag plain.isName front, kept⟩
  | @endTag name rest plain _ induction =>
      rcases induction with ⟨front, stretches, split, kept⟩
      refine ⟨[], ('/' :: (name ++ '>' :: front)) :: stretches, ?_, ?_⟩
      · rw [Text.splitAtChar, if_pos rfl, Text.splitAtChar, if_neg (by decide), List.append_cons,
          splitAtChar_append_of_free (bracket_notMem_tag plain) split, ← List.append_cons]
      · rw [List.forall_mem_cons]
        exact ⟨expandStretch_endTag _, kept⟩

theorem PlainPage.expandSelfClosing {page : List Char} (plainPage : PlainPage page) :
    Source.expandSelfClosing page = page := by
  rcases plainPage.splitAtChar with ⟨front, stretches, split, kept⟩
  have joined := joinWithChar_splitAtChar '<' page
  rw [split, joinWithChar_cons_eq_flatMap] at joined
  rw [Source.expandSelfClosing, split]
  exact (congrArg (front ++ ·) (List.flatMap_congr kept)).trans joined

theorem PlainPage.prepare {page : List Char} (plainPage : PlainPage page) (options : Options) :
    ChatMarkup.prepare options page = page := by
  rw [ChatMarkup.prepare, plainPage.removeHidden, plainPage.expandSelfClosing]

end ChatMarkup
