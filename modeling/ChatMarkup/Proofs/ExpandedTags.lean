import ChatMarkup.Proofs.Semicolons

/-!
Self-closing tags are expanded piece by piece: what follows a closing bracket is expanded on its own.
A start tag that a page was written with has slashes in its quoted values only, so that expanding
changes nothing but values.
-/

namespace ChatMarkup.Source

open Text

/-! ## Pieces of a page -/

theorem expandSelfClosing_of_split {source plain : List Char} {stretches : List (List Char)}
    (split : splitAtChar '<' source = plain :: stretches) :
    expandSelfClosing source = plain ++ stretches.flatMap expandStretch := by
  rw [expandSelfClosing, split]

/-- Without slashes there is nothing to expand. -/
theorem expandSelfClosing_of_slash_notMem {source : List Char} (noSlash : '/' ∉ source) :
    expandSelfClosing source = source := by
  rcases splitAtChar_eq_cons '<' source with ⟨plain, stretches, split⟩
  have joined := joinWithChar_splitAtChar '<' source
  rw [split, joinWithChar_cons_eq_flatMap] at joined
  have unchanged : ∀ stretch ∈ stretches, expandStretch stretch = '<' :: stretch := by
    intro stretch member
    have stretchFree : '/' ∉ stretch := fun slash => noSlash <| joined ▸ List.mem_append_right _
      (List.mem_flatMap.mpr ⟨stretch, member, List.mem_cons_of_mem _ slash⟩)
    rw [expandStretch]
    split
    · rfl
    · rename_i name afterName named
      split
      · rfl
      · rename_i attributes after slashed
        rcases splitName?_eq_some named with ⟨rfl, -⟩
        rw [splitSlash?_eq_some slashed] at stretchFree
        simp at stretchFree
  rw [expandSelfClosing_of_split split, List.flatMap_congr unchanged, joined]

theorem expandSelfClosing_append_of_free {text : List Char} (free : '<' ∉ text)
    (rest : List Char) : expandSelfClosing (text ++ rest) = text ++ expandSelfClosing rest := by
  rcases splitAtChar_eq_cons '<' rest with ⟨plain, stretches, split⟩
  rw [expandSelfClosing_of_split (splitAtChar_append_of_free free split),
    expandSelfClosing_of_split split, List.append_assoc]

/-- A stretch up to the next bracket. -/
theorem expandSelfClosing_bracket {stretch rest plain : List Char} {stretches : List (List Char)}
    (free : '<' ∉ stretch) (split : splitAtChar '<' rest = plain :: stretches) :
    expandSelfClosing ('<' :: (stretch ++ rest)) =
      expandStretch (stretch ++ plain) ++ stretches.flatMap expandStretch := by
  have whole : splitAtChar '<' ('<' :: (stretch ++ rest)) =
      [] :: (stretch ++ plain) :: stretches := by
    rw [splitAtChar, if_pos rfl, splitAtChar_append_of_free free split]
  rw [expandSelfClosing_of_split whole, List.nil_append, List.flatMap_cons]

theorem span_append_cons {α : Type} {test : α → Bool} {stop : α} (stops : test stop = false)
    (left right : List α) :
    (left ++ stop :: right).span test =
      ((left.span test).1, (left.span test).2 ++ stop :: right) := by
  rw [List.span_eq_takeWhile_dropWhile, List.span_eq_takeWhile_dropWhile]
  induction left with
  | nil => simp [stops]
  | cons first left induction =>
      rw [Prod.mk.injEq] at induction
      cases passes : test first with
      | true => simp [passes, induction.1, induction.2]
      | false => simp [passes]

theorem splitName?_append_bracket (left right : List Char) :
    splitName? (left ++ '>' :: right) =
      (splitName? left).map fun parts => (parts.1, parts.2 ++ '>' :: right) := by
  cases left with
  | nil => rfl
  | cons char left =>
      rw [List.cons_append, splitName?, splitName?, ← List.cons_append,
        span_append_cons (by decide)]
      split <;> rfl

theorem splitSlash?_append_bracket {left : List Char} (free : '>' ∉ left) (right : List Char) :
    splitSlash? (left ++ '>' :: right) =
      (splitSlash? (left ++ ['>'])).map fun parts => (parts.1, parts.2 ++ right) := by
  rw [splitSlash?, splitSlash?, span_of_free free, span_of_free free]
  dsimp only
  split <;> simp

theorem expandStretch_append_first {left : List Char} (free : '>' ∉ left) (right : List Char) :
    expandStretch (left ++ '>' :: right) = expandStretch (left ++ ['>']) ++ right := by
  rw [expandStretch, expandStretch, splitName?_append_bracket, splitName?_append_bracket left []]
  cases named : splitName? left with
  | none => simp
  | some parts =>
      rcases parts with ⟨name, afterName⟩
      rcases splitName?_eq_some named with ⟨rfl, -⟩
      rw [List.mem_append, not_or] at free
      simp only [Option.map_some]
      rw [splitSlash?_append_bracket free.2 right]
      cases splitSlash? (afterName ++ ['>']) with
      | none => simp
      | some parts => simp

/-- Nothing is looked for after the first closing bracket of a stretch. -/
theorem expandStretch_append_bracket (left right : List Char) :
    expandStretch (left ++ '>' :: right) = expandStretch (left ++ ['>']) ++ right := by
  by_cases closed : '>' ∈ left
  · rcases List.eq_append_cons_of_mem closed with ⟨inside, after, rfl, free⟩
    have split := expandStretch_append_first free
    rw [List.append_assoc, List.append_assoc, List.cons_append, List.cons_append, split, split
      (after ++ ['>']), List.append_assoc, List.append_assoc, List.singleton_append]
  · exact expandStretch_append_first closed right

/-- What follows a tag is expanded on its own. -/
theorem expandSelfClosing_append_bracket (left right : List Char) :
    expandSelfClosing (left ++ '>' :: right) =
      expandSelfClosing (left ++ ['>']) ++ expandSelfClosing right := by
  by_cases opened : '<' ∈ left
  · rcases List.eq_append_cons_of_mem opened with ⟨text, tag, rfl, free⟩
    rw [List.append_assoc, List.append_assoc, expandSelfClosing_append_of_free free,
      expandSelfClosing_append_of_free free, List.append_assoc, List.append_cancel_left_eq,
      List.cons_append, List.cons_append]
    by_cases again : '<' ∈ tag
    · rcases List.eq_append_cons_of_mem again with ⟨stretch, later, rfl, stretchFree⟩
      have apart : ∀ more, expandSelfClosing ('<' :: (stretch ++ '<' :: later ++ more)) =
          expandStretch stretch ++ expandSelfClosing ('<' :: later ++ more) := by
        intro more
        rcases splitAtChar_eq_cons '<' (later ++ more) with ⟨plain, stretches, split⟩
        have bracket : splitAtChar '<' ('<' :: (later ++ more)) = [] :: plain :: stretches := by
          rw [splitAtChar, if_pos rfl, split]
        rw [List.append_assoc, List.cons_append, expandSelfClosing_bracket stretchFree bracket,
          expandSelfClosing_of_split bracket, List.append_nil, List.nil_append]
      rw [apart, apart, List.append_assoc]
      exact congrArg _ (expandSelfClosing_append_bracket ('<' :: later) right)
    · rcases splitAtChar_eq_cons '<' right with ⟨plain, stretches, split⟩
      have closedFree : '<' ∉ tag ++ ['>'] := by
        simpa using again
      have alone := expandSelfClosing_bracket closedFree (rfl : splitAtChar '<' [] = [[]])
      rw [List.append_nil, List.flatMap_nil, List.append_nil] at alone
      rw [List.append_cons, expandSelfClosing_bracket closedFree split, alone,
        expandSelfClosing_of_split split, List.append_assoc, List.singleton_append,
        expandStretch_append_bracket, List.append_assoc]
  · have closedFree : '<' ∉ left ++ ['>'] := by
      simpa using opened
    have alone := expandSelfClosing_append_of_free closedFree []
    rw [List.append_nil] at alone
    rw [List.append_cons, expandSelfClosing_append_of_free closedFree, alone]
    simp [expandSelfClosing, splitAtChar]
termination_by left.length

/-- So is what follows an opening bracket. -/
theorem expandSelfClosing_append_open (left right : List Char) :
    expandSelfClosing (left ++ '<' :: right) =
      expandSelfClosing left ++ expandSelfClosing ('<' :: right) := by
  rcases splitAtChar_eq_cons '<' left with ⟨plain, stretches, split⟩
  have tail : splitAtChar '<' ('<' :: right) = [] :: splitAtChar '<' right := if_pos rfl
  have whole := splitAtChar_append_separator '<' left right
  rw [split, List.cons_append] at whole
  rw [expandSelfClosing_of_split whole, expandSelfClosing_of_split split,
    expandSelfClosing_of_split tail, List.flatMap_append, List.append_assoc]
  rfl

/-- A bracket that no letter follows begins nothing to expand. -/
theorem expandSelfClosing_bracket_append {first : Char} (noLetter : first.isAlpha = false)
    {text : List Char} (free : '<' ∉ first :: text) (rest : List Char) :
    expandSelfClosing ('<' :: first :: (text ++ rest)) =
      '<' :: first :: (text ++ expandSelfClosing rest) := by
  rcases splitAtChar_eq_cons '<' rest with ⟨plain, stretches, split⟩
  have noName : splitName? (first :: (text ++ plain)) = none := by
    rw [splitName?, noLetter]
    rfl
  rw [← List.cons_append, expandSelfClosing_bracket free split, List.cons_append, expandStretch,
    noName, expandSelfClosing_of_split split]
  simp

/-! Tags without attributes stay as they are. -/

theorem expandSelfClosing_startTag {name : String} (isName : isTagName name.toList = true)
    (rest : List Char) :
    expandSelfClosing (Node.startTag name ++ rest) =
      Node.startTag name ++ expandSelfClosing rest := by
  have free : '<' ∉ name.toList ++ ['>'] := by
    rcases exists_cons_of_isTagName isName with ⟨initial, letters, named, -, plainChars⟩
    rw [named]
    intro member
    rcases List.mem_append.mp member with inName | inBracket
    · exact ne_of_isPlainChar (plainChars '<' inName) (by decide) rfl
    · cases List.mem_singleton.mp inBracket
  rcases splitAtChar_eq_cons '<' rest with ⟨plain, stretches, split⟩
  rw [Node.startTag, List.cons_append, expandSelfClosing_bracket free split,
    expandSelfClosing_of_split split, List.append_assoc, List.singleton_append,
    expandStretch_startTag isName]
  simp

theorem expandSelfClosing_endTag {name : String} (free : '<' ∉ name.toList) (rest : List Char) :
    expandSelfClosing (Node.endTag name ++ rest) = Node.endTag name ++ expandSelfClosing rest := by
  have tagFree : '<' ∉ '/' :: (name.toList ++ ['>']) := by simpa using free
  exact expandSelfClosing_bracket_append (by decide) tagFree rest

/-! ## Characters outside of quotes -/

/-- The text without its quoted values, which begin and end with quotes. The text begins `inside` of
a value or not. -/
def unquoted (inside : Bool) : List Char → List Char
  | [] => []
  | char :: rest =>
    if char = '"' then '"' :: unquoted (!inside) rest
    else if inside then unquoted inside rest
    else char :: unquoted inside rest

def endsInside (inside : Bool) : List Char → Bool
  | [] => inside
  | char :: rest => endsInside (if char = '"' then !inside else inside) rest

theorem unquoted_append (inside : Bool) (left right : List Char) :
    unquoted inside (left ++ right) =
      unquoted inside left ++ unquoted (endsInside inside left) right := by
  induction left generalizing inside with
  | nil => rfl
  | cons char left induction =>
      rw [List.cons_append, unquoted, unquoted, endsInside]
      split
      · rw [induction, List.cons_append]
      · split
        · exact induction _
        · rw [induction, List.cons_append]

theorem endsInside_append (inside : Bool) (left right : List Char) :
    endsInside inside (left ++ right) = endsInside (endsInside inside left) right := by
  induction left generalizing inside with
  | nil => rfl
  | cons char left induction => exact induction _

theorem endsInside_of_free {text : List Char} (free : '"' ∉ text) (inside : Bool) :
    endsInside inside text = inside := by
  induction text with
  | nil => rfl
  | cons char rest induction =>
      rw [List.mem_cons, not_or] at free
      rw [endsInside, if_neg (Ne.symm free.1)]
      exact induction free.2

theorem unquoted_true_of_free {text : List Char} (free : '"' ∉ text) : unquoted true text = [] := by
  induction text with
  | nil => rfl
  | cons char rest induction =>
      rw [List.mem_cons, not_or] at free
      rw [unquoted, if_neg (Ne.symm free.1), if_pos rfl]
      exact induction free.2

theorem unquoted_false_of_free {text : List Char} (free : '"' ∉ text) :
    unquoted false text = text := by
  induction text with
  | nil => rfl
  | cons char rest induction =>
      rw [List.mem_cons, not_or] at free
      rw [unquoted, if_neg (Ne.symm free.1), if_neg Bool.false_ne_true, induction free.2]

/-! A text is put together again from what stands outside of its values. -/

theorem eq_nil_of_unquoted {source : List Char} (nothing : unquoted false source = []) :
    source = [] := by
  cases source with
  | nil => rfl
  | cons first source =>
      rw [unquoted] at nothing
      split at nothing
      · cases nothing
      · cases nothing

theorem exists_of_unquoted_append {name source rest : List Char} (free : '"' ∉ name)
    (outside : unquoted false source = name ++ rest) :
    ∃ later, source = name ++ later ∧ unquoted false later = rest := by
  induction name generalizing source with
  | nil => exact ⟨source, rfl, outside⟩
  | cons char name induction =>
      rw [List.mem_cons, not_or] at free
      cases source with
      | nil => cases outside
      | cons first source =>
          rw [unquoted] at outside
          split at outside
          · exact absurd (List.cons.inj outside).1 free.1
          · rw [if_neg Bool.false_ne_true] at outside
            rcases List.cons.inj outside with ⟨rfl, restOutside⟩
            rcases induction free.2 restOutside with ⟨later, rfl, left⟩
            exact ⟨later, rfl, left⟩

theorem exists_of_unquoted_true {source rest : List Char}
    (outside : unquoted true source = '"' :: rest) :
    ∃ value later, source = value ++ '"' :: later ∧ '"' ∉ value ∧ unquoted false later = rest := by
  induction source with
  | nil => cases outside
  | cons first source induction =>
      rw [unquoted] at outside
      split at outside
      · rename_i quote
        rw [quote]
        exact ⟨[], source, rfl, List.not_mem_nil, (List.cons.inj outside).2⟩
      · rename_i noQuote
        rcases induction outside with ⟨value, later, rfl, free, left⟩
        refine ⟨first :: value, later, rfl, ?_, left⟩
        rw [List.mem_cons, not_or]
        exact ⟨Ne.symm noQuote, free⟩

theorem exists_of_unquoted_value {source rest : List Char}
    (outside : unquoted false source = '"' :: '"' :: rest) :
    ∃ value later, source = '"' :: (value ++ '"' :: later) ∧ '"' ∉ value ∧
      unquoted false later = rest := by
  cases source with
  | nil => cases outside
  | cons first source =>
      rw [unquoted] at outside
      split at outside
      · rename_i quote
        rcases exists_of_unquoted_true (List.cons.inj outside).2 with ⟨value, later, rfl, ends⟩
        rw [quote]
        exact ⟨value, later, rfl, ends⟩
      · rename_i noQuote
        exact absurd (List.cons.inj outside).1 noQuote

/-! ## Expanding changes values only -/

/-- Texts that agree outside of quoted values. -/
structure AlikeFrom (inside : Bool) (left right : List Char) : Prop where
  unquoted : unquoted inside left = unquoted inside right
  ends : endsInside inside left = endsInside inside right

theorem AlikeFrom.append {inside : Bool} {left right leftMore rightMore : List Char}
    (front : AlikeFrom inside left right)
    (back : AlikeFrom (endsInside inside right) leftMore rightMore) :
    AlikeFrom inside (left ++ leftMore) (right ++ rightMore) where
  unquoted := by
    rw [unquoted_append, unquoted_append, front.unquoted, front.ends, back.unquoted]
  ends := by
    rw [endsInside_append, endsInside_append, front.ends, back.ends]

theorem AlikeFrom.refl (inside : Bool) (text : List Char) : AlikeFrom inside text text := ⟨rfl, rfl⟩

/-- Inside of a value texts without quotes are alike. -/
theorem alikeFrom_true {left right : List Char} (leftFree : '"' ∉ left) (rightFree : '"' ∉ right) :
    AlikeFrom true left right where
  unquoted := by rw [unquoted_true_of_free leftFree, unquoted_true_of_free rightFree]
  ends := by rw [endsInside_of_free leftFree, endsInside_of_free rightFree]

/-- If no slash stands outside of the values, a tag that looks self-closing ends in a value. -/
theorem alikeFrom_expandStretch {inside : Bool} {stretch : List Char}
    (noSlash : '/' ∉ unquoted inside ('<' :: stretch)) :
    AlikeFrom inside (expandStretch stretch) ('<' :: stretch) := by
  rw [expandStretch]
  split
  · exact .refl _ _
  · rename_i name afterName named
    split
    · exact .refl _ _
    · rename_i attributes after slashed
      rcases splitName?_eq_some named with ⟨rfl, nameChars⟩
      rcases @exists_trimEndWhere_append isBlank attributes with ⟨blanks, whole, blank⟩
      rw [← trimEnd] at whole
      have noQuote : '"' ∉ name := fun member => absurd (nameChars _ member) (by decide)
      have blankFree : '"' ∉ blanks := fun member => absurd (blank _ member) (by decide)
      have tag : '<' :: (name ++ afterName) =
          '<' :: (name ++ trimEnd attributes) ++ (blanks ++ ['/', '>']) ++ after := by
        rw [splitSlash?_eq_some slashed]
        conv => lhs; rw [whole]
        simp
      rw [tag] at noSlash ⊢
      have inValue : endsInside inside ('<' :: (name ++ trimEnd attributes)) = true := by
        by_contra outside
        apply noSlash
        rw [List.append_assoc, unquoted_append, List.append_assoc, unquoted_append,
          endsInside_of_free blankFree, Bool.eq_false_iff.mpr outside]
        exact List.mem_append_right _ (List.mem_append_right _ List.mem_cons_self)
      have slashFree : '"' ∉ blanks ++ ['/', '>'] := by
        simpa using blankFree
      have closing : ∃ closing, '<' :: openTag name attributes ++ after =
          '<' :: (name ++ trimEnd attributes) ++ closing ++ after ∧ '"' ∉ closing := by
        refine ⟨_, rfl, ?_⟩
        split
        · decide
        · simpa using noQuote
      rcases closing with ⟨closing, expanded, closingFree⟩
      rw [expanded]
      refine ((AlikeFrom.refl inside _).append ?_).append (.refl _ after)
      rw [inValue]
      exact alikeFrom_true closingFree slashFree

theorem alikeFrom_flatMap_expandStretch {inside : Bool} {stretches : List (List Char)}
    (noSlash : '/' ∉ unquoted inside (stretches.flatMap ('<' :: ·))) :
    AlikeFrom inside (stretches.flatMap expandStretch) (stretches.flatMap ('<' :: ·)) := by
  induction stretches generalizing inside with
  | nil => exact .refl _ _
  | cons stretch rest induction =>
      rw [List.flatMap_cons, unquoted_append, List.mem_append, not_or] at noSlash
      rw [List.flatMap_cons, List.flatMap_cons]
      exact (alikeFrom_expandStretch noSlash.1).append (induction noSlash.2)

/-- Expanding a page changes nothing outside of values, if no slash stands there. -/
theorem unquoted_expandSelfClosing {source : List Char}
    (noSlash : '/' ∉ unquoted false source) :
    unquoted false (expandSelfClosing source) = unquoted false source := by
  rcases splitAtChar_eq_cons '<' source with ⟨plain, stretches, split⟩
  have joined := joinWithChar_splitAtChar '<' source
  rw [split, joinWithChar_cons_eq_flatMap] at joined
  rw [← joined, unquoted_append, List.mem_append, not_or] at noSlash
  have alike := (AlikeFrom.refl false plain).append (alikeFrom_flatMap_expandStretch noSlash.2)
  rw [expandSelfClosing_of_split split, alike.unquoted, joined]

end ChatMarkup.Source
