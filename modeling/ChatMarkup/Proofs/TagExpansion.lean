import ChatMarkup.Proofs.ExpandedTags
import ChatMarkup.Proofs.Patterns
import ChatMarkup.Proofs.Respelling

/-!
Expanding self-closing tags is a local matter. Every self-closing tag of a page is replaced,
wherever it stands, and every other character is copied. A page can be cut in front of an opening
bracket and behind a closing one, and the pieces can be expanded each on its own. A pattern that
leaves the white space at the end of a tag out of its attributes finds the same tags.
-/

namespace ChatMarkup

open Text Source

def isSlashName : List Char → Bool
  | [] => false
  | initial :: rest => initial.isAlpha && rest.all isTagNameChar

namespace Source

/-! ## Splitting a tag -/

theorem isNameChar_of_isTagNameChar {char : Char} (named : isTagNameChar char = true) :
    Markup.isNameChar char = true ∧ char ≠ '/' := by
  constructor
  · rw [isTagNameChar] at named
    rw [Markup.isNameChar]
    grind
  · rintro rfl
    cases named

theorem exists_of_isSlashName {name : List Char} (isName : isSlashName name = true) :
    ∃ initial letters, name = initial :: letters ∧ initial.isAlpha = true ∧
      ∀ char ∈ name, isTagNameChar char = true := by
  cases name with
  | nil => cases isName
  | cons initial letters =>
      rw [isSlashName, Bool.and_eq_true, List.all_eq_true] at isName
      exact ⟨initial, letters, rfl, isName.1,
        List.forall_mem_cons.mpr ⟨isTagNameChar_of_isAlpha isName.1, isName.2⟩⟩

/-- Neither white space nor a slash belongs to a name. -/
theorem head?_not_isTagNameChar {attributes : List Char}
    (separated : attributes.head?.all isBlank = true) (rest : List Char) :
    (attributes ++ '/' :: rest).head?.any isTagNameChar = false := by
  cases attributes with
  | nil => rfl
  | cons first more =>
      have blank : isBlank first = true := separated
      rw [List.cons_append, List.head?_cons, Option.any_some, Bool.eq_false_iff]
      intro isName
      rw [isBlank_of_isNameChar (isNameChar_of_isTagNameChar isName).1] at blank
      cases blank

theorem span_of_stops {test : Char → Bool} {front back : List Char}
    (passes : ∀ char ∈ front, test char = true) (stops : back.head?.any test = false) :
    (front ++ back).span test = (front, back) := by
  rw [List.span_eq_takeWhile_dropWhile, List.takeWhile_append_of_pos passes,
    List.dropWhile_append_of_pos passes]
  cases back with
  | nil => simp
  | cons first rest => simp [show test first = false from stops]

/-- A name is as long as it can be. -/
theorem splitName?_eq_some_iff {stretch name afterName : List Char} :
    splitName? stretch = some (name, afterName) ↔
      stretch = name ++ afterName ∧ isSlashName name = true ∧
        afterName.head?.any isTagNameChar = false := by
  constructor
  · intro split
    refine ⟨(splitName?_eq_some split).1, ?_⟩
    cases stretch with
    | nil => cases split
    | cons initial rest =>
        rw [splitName?, List.span_eq_takeWhile_dropWhile] at split
        split at split
        · rename_i letter
          have stopped := List.head?_dropWhile_not isTagNameChar (initial :: rest)
          rw [Option.some.injEq, Prod.mk.injEq] at split
          rcases split with ⟨rfl, rfl⟩
          rw [List.takeWhile_cons_of_pos (isTagNameChar_of_isAlpha letter), isSlashName, letter,
            List.all_takeWhile]
          refine ⟨rfl, ?_⟩
          cases left : (initial :: rest).dropWhile isTagNameChar with
          | nil => rfl
          | cons first more =>
              rw [left] at stopped
              exact stopped
        · cases split
  · rintro ⟨rfl, isName, ends⟩
    rcases exists_of_isSlashName isName with ⟨initial, letters, named, letter, nameChars⟩
    rw [← span_of_stops nameChars ends, named, List.cons_append, splitName?, if_pos letter]

/-- The slash stands in front of the first closing bracket. -/
theorem splitSlash?_eq_some_iff {afterName attributes after : List Char} :
    splitSlash? afterName = some (attributes, after) ↔
      afterName = attributes ++ '/' :: '>' :: after ∧ '>' ∉ attributes ∧
        attributes.head?.all isBlank = true := by
  constructor
  · intro split
    refine ⟨splitSlash?_eq_some split, ?_⟩
    rw [splitSlash?, List.span_eq_takeWhile_dropWhile] at split
    split at split
    · rename_i inside bracket tail spanned
      rw [Prod.mk.injEq] at spanned
      dsimp only at split
      split at split
      · rename_i slashed
        rw [Bool.and_eq_true] at slashed
        rw [Option.some.injEq, Prod.mk.injEq] at split
        rcases split with ⟨rfl, -⟩
        refine ⟨fun member => ?_, slashed.2⟩
        have inTag := (List.dropLast_sublist _).mem member
        rw [← spanned.1] at inTag
        exact absurd (List.mem_takeWhile_imp inTag) (by decide)
      · cases split
    · cases split
  · rintro ⟨rfl, free, separated⟩
    have slashFree : '>' ∉ attributes ++ ['/'] := by simpa using free
    rw [splitSlash?, List.append_cons, span_of_free slashFree]
    simp [separated]

/-! ## Self-closing tags -/

def spelledOut (name attributes : List Char) : List Char :=
  '<' :: (name ++ (attributes ++ ['>'])) ++
    if isVoidName (String.ofList name) then [] else '<' :: '/' :: (name ++ ['>'])

/-- A tag with a slash in front of its closing bracket. White space separates what stands between
the name and the slash from the name. -/
structure SelfClosingTag where
  name : List Char
  attributes : List Char
  isName : isSlashName name = true
  opensNone : '<' ∉ attributes
  closesNone : '>' ∉ attributes
  separated : attributes.head?.all isBlank = true

namespace SelfClosingTag

def source (tag : SelfClosingTag) : List Char := '<' :: (tag.name ++ (tag.attributes ++ ['/', '>']))

def expanded (tag : SelfClosingTag) : List Char := spelledOut tag.name (trimEnd tag.attributes)

variable (tag : SelfClosingTag)

theorem bracket_notMem : '<' ∉ tag.name ++ (tag.attributes ++ ['/', '>']) := by
  rcases exists_of_isSlashName tag.isName with ⟨-, -, -, -, nameChars⟩
  have nameFree : '<' ∉ tag.name := fun member => absurd (nameChars _ member) (by decide)
  simp [nameFree, tag.opensNone]

theorem expandStretch_append (rest : List Char) :
    expandStretch (tag.name ++ (tag.attributes ++ '/' :: '>' :: rest)) = tag.expanded ++ rest := by
  have named := splitName?_eq_some_iff.mpr
    ⟨rfl, tag.isName, head?_not_isTagNameChar tag.separated ('>' :: rest)⟩
  have slashed := @splitSlash?_eq_some_iff _ _ rest |>.mpr ⟨rfl, tag.closesNone, tag.separated⟩
  rw [expandStretch, named]
  simp only [slashed, openTag, expanded, spelledOut]
  split <;> simp

theorem expandSelfClosing_source : expandSelfClosing tag.source = tag.expanded := by
  have alone := expandSelfClosing_bracket tag.bracket_notMem (rfl : splitAtChar '<' [] = [[]])
  rw [List.append_nil, List.flatMap_nil, List.append_nil] at alone
  exact alone.trans ((tag.expandStretch_append []).trans (List.append_nil _))

theorem expandSelfClosing_source_append (rest : List Char) :
    expandSelfClosing (tag.source ++ rest) = tag.expanded ++ expandSelfClosing rest := by
  have closed : tag.source = '<' :: (tag.name ++ (tag.attributes ++ ['/'])) ++ ['>'] := by
    simp [source]
  rw [← tag.expandSelfClosing_source, closed, List.append_assoc, List.singleton_append,
    expandSelfClosing_append_bracket]

/-- A tag is replaced wherever it stands. -/
theorem expandSelfClosing_append_source_append (left right : List Char) :
    expandSelfClosing (left ++ (tag.source ++ right)) =
      expandSelfClosing left ++ (tag.expanded ++ expandSelfClosing right) := by
  rw [← tag.expandSelfClosing_source_append]
  exact expandSelfClosing_append_open left _

end SelfClosingTag

/-! ## Pages -/

/-- The second page is the first one with every self-closing tag replaced and every other character
copied. -/
inductive Expands : List Char → List Char → Prop
  | nil : Expands [] []
  | tag (tag : SelfClosingTag) {rest result : List Char} (expands : Expands rest result) :
    Expands (tag.source ++ rest) (tag.expanded ++ result)
  | copy {char : Char} {rest result : List Char}
    (noTag : ∀ tag : SelfClosingTag, ¬tag.source <+: char :: rest) (expands : Expands rest result) :
    Expands (char :: rest) (char :: result)

/-- What is not left as it is is a tag. -/
theorem expandStretch_cases {stretch : List Char} (free : '<' ∉ stretch) :
    expandStretch stretch = '<' :: stretch ∨
      ∃ tag : SelfClosingTag, tag.source <+: '<' :: stretch := by
  rw [expandStretch]
  split
  · exact .inl rfl
  · rename_i name afterName named
    split
    · exact .inl rfl
    · rename_i attributes after slashed
      rcases splitName?_eq_some_iff.mp named with ⟨rfl, isName, -⟩
      rcases splitSlash?_eq_some_iff.mp slashed with ⟨rfl, closesNone, separated⟩
      have opensNone : '<' ∉ attributes := fun member => free (by simp [member])
      exact .inr ⟨⟨name, attributes, isName, opensNone, closesNone, separated⟩, after,
        by simp [SelfClosingTag.source]⟩

/-- A character that begins no tag is copied. -/
theorem expandSelfClosing_cons {char : Char} {rest : List Char}
    (noTag : ∀ tag : SelfClosingTag, ¬tag.source <+: char :: rest) :
    expandSelfClosing (char :: rest) = char :: expandSelfClosing rest := by
  by_cases bracket : char = '<'
  · subst bracket
    rcases splitAtChar_eq_cons '<' rest with ⟨plain, stretches, split⟩
    have free : '<' ∉ plain := notMem_of_mem_splitAtChar (split ▸ List.mem_cons_self)
    have joined := joinWithChar_splitAtChar '<' rest
    rw [split, joinWithChar_cons_eq_flatMap] at joined
    have unchanged : expandStretch plain = '<' :: plain := by
      refine (expandStretch_cases free).resolve_right ?_
      rintro ⟨tag, inPlain⟩
      apply noTag tag
      rw [← joined, ← List.cons_append]
      exact inPlain.trans (List.prefix_append _ _)
    have whole := expandSelfClosing_bracket (List.not_mem_nil : '<' ∉ []) split
    rw [List.nil_append, List.nil_append, unchanged] at whole
    rw [whole, expandSelfClosing_of_split split]
    rfl
  · have free : '<' ∉ [char] := by simpa [eq_comm] using bracket
    exact expandSelfClosing_append_of_free free rest

theorem expands_expandSelfClosing (page : List Char) : Expands page (expandSelfClosing page) := by
  by_cases begins : ∃ tag : SelfClosingTag, tag.source <+: page
  · rcases begins with ⟨tag, rest, whole⟩
    have shorter : rest.length < page.length := by
      simp [← whole, SelfClosingTag.source]
      omega
    rw [← whole, tag.expandSelfClosing_source_append]
    exact .tag tag (expands_expandSelfClosing rest)
  · rw [not_exists] at begins
    match page with
    | [] => exact .nil
    | char :: rest =>
        rw [expandSelfClosing_cons begins]
        exact .copy begins (expands_expandSelfClosing rest)
termination_by page.length

theorem Expands.eq_expandSelfClosing {page result : List Char} (expands : Expands page result) :
    result = expandSelfClosing page := by
  induction expands with
  | nil => rfl
  | tag tag expands induction => rw [tag.expandSelfClosing_source_append, induction]
  | copy noTag expands induction => rw [expandSelfClosing_cons noTag, induction]

/-! ## Tags as matches of a pattern -/

namespace SelfClosingTag

open Pattern

def notBracket (char : Char) : Bool := char != '<' && char != '>'

def slashEnd {Kept : Type} (kept : Kept) : Pattern Kept :=
  (many isBlank).followedBy fun _ => (one (· == '/')).followedBy fun _ =>
    (one (· == '>')).followedBy fun _ => keep kept

def attributesPattern : Pattern (List Char) :=
  (one isBlank).followedBy fun blank => (few notBracket).followedBy fun more => keep (blank :: more)

def afterName (name : List Char) : Pattern (List Char × List Char) :=
  (perhaps attributesPattern).followedBy fun attributes => slashEnd (name, attributes)

def pattern : Pattern (List Char × List Char) :=
  (one (· == '<')).followedBy fun _ => (one Char.isAlpha).followedBy fun initial =>
    (many isTagNameChar).followedBy fun letters => afterName (initial :: letters)

variable {Kept : Type} {kept : Kept} {text : List Char} {way : Kept × List Char}

theorem first?_slashEnd_eq_some_iff :
    (slashEnd kept).first? text = some way ↔
      way.1 = kept ∧ ∃ blanks, (∀ char ∈ blanks, isBlank char = true) ∧
        text = blanks ++ '/' :: '>' :: way.2 := by
  have stops (taken : List Char) (char : Char) (rest : List Char) (blank : isBlank char = true) :
      ((one (· == '/')).followedBy fun _ => (one (· == '>')).followedBy fun _ =>
        keep kept).first? (char :: rest) = none := by
    have noSlash : char ≠ '/' := by
      rintro rfl
      exact absurd blank (by decide)
    simp [first?_one_followedBy, noSlash]
  rw [slashEnd, first?_many_followedBy stops]
  constructor
  · intro found
    have whole := List.takeWhile_append_dropWhile (p := isBlank) (l := text)
    match left : text.dropWhile isBlank with
    | [] =>
        rw [left] at found
        cases found
    | [slash] =>
        rw [left, first?_one_followedBy] at found
        split at found <;> cases found
    | slash :: bracket :: after =>
        rw [left, first?_one_followedBy] at found
        split at found
        · rename_i isSlash
          rw [first?_one_followedBy] at found
          split at found
          · rename_i isBracket
            cases found
            rw [left, beq_iff_eq.mp isSlash, beq_iff_eq.mp isBracket] at whole
            exact ⟨rfl, _, fun char => List.mem_takeWhile_imp, whole.symm⟩
          · cases found
        · cases found
  · rintro ⟨rfl, blanks, blank, rfl⟩
    rw [List.dropWhile_append_of_pos blank]
    rfl

theorem first?_slashEnd {blanks : List Char} (blank : ∀ char ∈ blanks, isBlank char = true)
    (kept : Kept) (after : List Char) :
    (slashEnd kept).first? (blanks ++ '/' :: '>' :: after) = some (kept, after) :=
  first?_slashEnd_eq_some_iff.mpr ⟨rfl, blanks, blank, rfl⟩

/-- What stands in front of the slash has to be white space. -/
theorem first?_slashEnd_eq_none {inside : List Char} (closesNone : '>' ∉ inside)
    (inked : ¬∀ char ∈ inside, isBlank char = true) (kept : Kept) (after : List Char) :
    (slashEnd kept).first? (inside ++ '/' :: '>' :: after) = none := by
  rw [Option.eq_none_iff_forall_ne_some]
  intro way found
  rcases first?_slashEnd_eq_some_iff.mp found with ⟨-, blanks, blank, whole⟩
  have blankFree : '>' ∉ blanks := fun member => absurd (blank _ member) (by decide)
  have insideFirst := @span_of_free '>' (inside ++ ['/']) (by simpa using closesNone) after
  have blanksFirst := @span_of_free '>' (blanks ++ ['/']) (by simpa using blankFree) way.2
  rw [← List.append_cons] at insideFirst blanksFirst
  rw [whole, blanksFirst, Prod.mk.injEq] at insideFirst
  rw [List.append_cancel_right insideFirst.1] at blank
  exact inked blank

theorem trimEnd_cons_of_inked {char : Char} {text : List Char}
    (inked : ¬∀ other ∈ char :: text, isBlank other = true) :
    trimEnd (char :: text) = char :: trimEnd text := by
  rw [trimEnd, trimEndWhere]
  split
  · rename_i empty
    rcases @exists_trimEndWhere_append isBlank text with ⟨tail, whole, blank⟩
    rw [empty, List.nil_append] at whole
    rw [List.forall_mem_cons, whole] at inked
    rw [if_neg fun first => inked ⟨first, blank⟩, trimEnd, empty]
  · rfl

/-- As few attributes as possible end in front of the white space at the end of the tag. -/
theorem first?_few_slashEnd {inside : List Char} (opensNone : '<' ∉ inside)
    (closesNone : '>' ∉ inside) (wrap : List Char → Kept) (after : List Char) :
    ((few notBracket).followedBy fun more => slashEnd (wrap more)).first?
      (inside ++ '/' :: '>' :: after) = some (wrap (trimEnd inside), after) := by
  induction inside generalizing wrap with
  | nil => exact first?_few_followedBy_cons _ _ _ _
  | cons char inside induction =>
      have taken : notBracket char = true := by
        rw [List.mem_cons, not_or] at opensNone closesNone
        simp [notBracket, Ne.symm opensNone.1, Ne.symm closesNone.1]
      rw [List.cons_append, first?_few_followedBy_cons, ← List.cons_append]
      by_cases blank : ∀ other ∈ char :: inside, isBlank other = true
      · rw [first?_slashEnd blank, trimEnd, trimEndWhere_eq_nil blank]
        rfl
      · rw [first?_slashEnd_eq_none closesNone blank, if_pos taken, trimEnd_cons_of_inked blank,
          Option.none_or]
        exact induction (List.not_mem_of_not_mem_cons opensNone)
          (List.not_mem_of_not_mem_cons closesNone) fun more => wrap (char :: more)

theorem exists_of_first?_few_slashEnd {wrap : List Char → Kept}
    (found : ((few notBracket).followedBy fun more => slashEnd (wrap more)).first? text =
      some way) :
    ∃ inside, text = inside ++ '/' :: '>' :: way.2 ∧ '<' ∉ inside ∧ '>' ∉ inside := by
  have ends {taken rest : List Char} (ended : (slashEnd (wrap taken)).first? rest = some way) :
      ∃ inside, rest = inside ++ '/' :: '>' :: way.2 ∧ '<' ∉ inside ∧ '>' ∉ inside := by
    rcases first?_slashEnd_eq_some_iff.mp ended with ⟨-, blanks, blank, whole⟩
    exact ⟨blanks, whole, fun member => absurd (blank _ member) (by decide),
      fun member => absurd (blank _ member) (by decide)⟩
  induction text generalizing wrap with
  | nil =>
      rw [first?_few_followedBy_nil] at found
      exact ends found
  | cons char rest induction =>
      rw [first?_few_followedBy_cons] at found
      rcases Option.or_eq_some_iff.mp found with ended | ⟨-, later⟩
      · exact ends ended
      · split at later
        · rename_i taken
          rcases induction later ends with ⟨inside, rfl, opensNone, closesNone⟩
          rw [notBracket, Bool.and_eq_true, bne_iff_ne, bne_iff_ne] at taken
          refine ⟨char :: inside, rfl, ?_, ?_⟩
          · simp [opensNone, Ne.symm taken.1]
          · simp [closesNone, Ne.symm taken.2]
        · cases later

theorem first?_afterName_cons (name : List Char) (char : Char) (rest : List Char) :
    (afterName name).first? (char :: rest) =
      ((slashEnd (name, [])).first? (char :: rest)).or
        (if isBlank char then
          ((few notBracket).followedBy fun more => slashEnd (name, char :: more)).first? rest
        else none) := by
  rw [afterName, first?_perhaps_followedBy, attributesPattern, followedBy_assoc]
  simp only [followedBy_assoc, keep_followedBy]
  rw [first?_one_followedBy]

theorem first?_afterName {attributes : List Char} (opensNone : '<' ∉ attributes)
    (closesNone : '>' ∉ attributes) (separated : attributes.head?.all isBlank = true)
    (name rest : List Char) :
    (afterName name).first? (attributes ++ '/' :: '>' :: rest) =
      some ((name, trimEnd attributes), rest) := by
  by_cases blank : ∀ char ∈ attributes, isBlank char = true
  · -- the attributes are left out, and the white space belongs to the end of the tag
    rw [afterName, first?_perhaps_followedBy, first?_slashEnd blank, trimEnd,
      trimEndWhere_eq_nil blank]
    rfl
  · cases attributes with
    | nil => exact absurd (by simp) blank
    | cons first inside =>
        have isBlankFirst : isBlank first = true := separated
        have ended := first?_slashEnd_eq_none closesNone blank (name, ([] : List Char)) rest
        rw [List.cons_append] at ended
        rw [List.cons_append, first?_afterName_cons, ended, Option.none_or,
          if_pos isBlankFirst, trimEnd_cons_of_inked blank]
        exact first?_few_slashEnd (List.not_mem_of_not_mem_cons opensNone)
          (List.not_mem_of_not_mem_cons closesNone) (fun more => (name, first :: more)) rest

theorem exists_of_first?_afterName {name : List Char} {way : (List Char × List Char) × List Char}
    (found : (afterName name).first? text = some way) :
    ∃ attributes, text = attributes ++ '/' :: '>' :: way.2 ∧ '<' ∉ attributes ∧
      '>' ∉ attributes ∧ attributes.head?.all isBlank = true := by
  cases text with
  | nil => cases found
  | cons char rest =>
      rw [first?_afterName_cons] at found
      rcases Option.or_eq_some_iff.mp found with ended | ⟨-, later⟩
      · rcases first?_slashEnd_eq_some_iff.mp ended with ⟨-, blanks, blank, whole⟩
        refine ⟨blanks, whole, fun member => absurd (blank _ member) (by decide),
          fun member => absurd (blank _ member) (by decide), ?_⟩
        cases blanks with
        | nil => rfl
        | cons first more => exact blank first List.mem_cons_self
      · split at later
        · rename_i blank
          rcases exists_of_first?_few_slashEnd later with ⟨inside, rfl, opensNone, closesNone⟩
          have notOpening : '<' ≠ char := by
            rintro rfl
            exact absurd blank (by decide)
          have notClosing : '>' ≠ char := by
            rintro rfl
            exact absurd blank (by decide)
          exact ⟨char :: inside, rfl, List.not_mem_cons_of_ne_of_not_mem notOpening opensNone,
            List.not_mem_cons_of_ne_of_not_mem notClosing closesNone, blank⟩
        · cases later

/-- Giving up letters of a name is of no use. -/
theorem first?_many_afterName (initial : Char) (text : List Char) :
    ((many isTagNameChar).followedBy fun letters => afterName (initial :: letters)).first? text =
      (afterName (initial :: text.takeWhile isTagNameChar)).first?
        (text.dropWhile isTagNameChar) := by
  apply first?_many_followedBy
  intro letters char rest isName
  rw [Option.eq_none_iff_forall_ne_some]
  intro way found
  rcases exists_of_first?_afterName found with ⟨attributes, whole, -, -, separated⟩
  have ends := head?_not_isTagNameChar separated ('>' :: way.2)
  rw [← whole, List.head?_cons, Option.any_some, isName] at ends
  cases ends

theorem first?_source_append (tag : SelfClosingTag) (rest : List Char) :
    pattern.first? (tag.source ++ rest) = some ((tag.name, trimEnd tag.attributes), rest) := by
  rcases exists_of_isSlashName tag.isName with ⟨initial, letters, named, letter, nameChars⟩
  rw [named, List.forall_mem_cons] at nameChars
  have ends := head?_not_isTagNameChar tag.separated ('>' :: rest)
  have spanned := span_of_stops nameChars.2 ends
  rw [List.span_eq_takeWhile_dropWhile, Prod.mk.injEq] at spanned
  have whole : tag.source ++ rest =
      '<' :: initial :: (letters ++ (tag.attributes ++ '/' :: '>' :: rest)) := by
    simp [source, named]
  rw [whole, pattern, first?_one_followedBy, if_pos (by decide), first?_one_followedBy,
    if_pos letter, first?_many_afterName, spanned.1, spanned.2,
    first?_afterName tag.opensNone tag.closesNone tag.separated, named]

theorem exists_of_first? {way : (List Char × List Char) × List Char}
    (found : pattern.first? text = some way) : ∃ tag : SelfClosingTag, tag.source <+: text := by
  match text with
  | [] => cases found
  | [bracket] =>
      rw [pattern, first?_one_followedBy] at found
      split at found <;> cases found
  | bracket :: initial :: rest =>
      rw [pattern, first?_one_followedBy] at found
      split at found
      · rename_i isBracket
        rw [first?_one_followedBy] at found
        split at found
        · rename_i letter
          rw [first?_many_afterName] at found
          rcases exists_of_first?_afterName found with
            ⟨attributes, left, opensNone, closesNone, separated⟩
          have isName : isSlashName (initial :: rest.takeWhile isTagNameChar) = true := by
            rw [isSlashName, letter, List.all_takeWhile, Bool.true_and]
          refine ⟨⟨_, attributes, isName, opensNone, closesNone, separated⟩, way.2, ?_⟩
          conv => rhs; rw [← List.takeWhile_append_dropWhile (p := isTagNameChar) (l := rest), left]
          simp [source, beq_iff_eq.mp isBracket]
        · cases found
      · cases found

end SelfClosingTag

/-- Replacing the matches of the pattern expands the tags. -/
theorem Expands.eq_replaceAll {page result : List Char} (expands : Expands page result) :
    result = SelfClosingTag.pattern.replaceAll (fun kept => spelledOut kept.1 kept.2) page := by
  induction expands with
  | nil => rw [Pattern.replaceAll]
  | @tag tag rest result expands induction =>
      have shorter : rest.length < (tag.source ++ rest).length := by
        simp [SelfClosingTag.source]
        omega
      rw [Pattern.replaceAll_of_first? _ (tag.first?_source_append rest) shorter, ← induction,
        SelfClosingTag.expanded]
  | copy noTag expands induction =>
      have absent : SelfClosingTag.pattern.first? (_ :: _) = none :=
        Option.eq_none_iff_forall_ne_some.mpr fun _ found =>
          (SelfClosingTag.exists_of_first? found).elim noTag
      rw [Pattern.replaceAll_of_absent _ absent, ← induction]

/-- A page without a slash in front of a closing bracket has no self-closing tags. -/
theorem Expands.eq_self {page result : List Char} (expands : Expands page result)
    (plain : ¬['/', '>'] <:+: page) : result = page := by
  induction expands with
  | nil => rfl
  | @tag tag rest result expands induction =>
      refine absurd ⟨'<' :: (tag.name ++ tag.attributes), rest, ?_⟩ plain
      simp [SelfClosingTag.source]
  | copy noTag expands induction =>
      rw [induction fun found => plain (List.infix_cons found)]

/-- A page with its self-closing tags expanded is the page with each of them replaced and every
other character copied. It is what a search for the pattern of the tags gives, it can be put
together from pieces cut in front of an opening bracket or behind a closing one, and pages without a
slash in front of a closing bracket can be left alone. -/
theorem expandSelfClosing_local (page : List Char) :
    (∀ result, Expands page result ↔ result = expandSelfClosing page) ∧
      SelfClosingTag.pattern.replaceAll (fun kept => spelledOut kept.1 kept.2) page =
        expandSelfClosing page ∧
      (∀ (left : List Char) (tag : SelfClosingTag) (right : List Char),
        page = left ++ (tag.source ++ right) →
          expandSelfClosing page =
            expandSelfClosing left ++ (tag.expanded ++ expandSelfClosing right)) ∧
      (∀ left right, page = left ++ '<' :: right →
        expandSelfClosing page = expandSelfClosing left ++ expandSelfClosing ('<' :: right)) ∧
      (∀ left right, page = left ++ '>' :: right →
        expandSelfClosing page =
          expandSelfClosing (left ++ ['>']) ++ expandSelfClosing right) ∧
      (¬['/', '>'] <:+: page → expandSelfClosing page = page) := by
  have expands := expands_expandSelfClosing page
  refine ⟨fun result => ⟨Expands.eq_expandSelfClosing, ?_⟩, expands.eq_replaceAll.symm, ?_, ?_, ?_,
    expands.eq_self⟩
  · rintro rfl
    exact expands
  · rintro left tag right rfl
    exact tag.expandSelfClosing_append_source_append left right
  · rintro left right rfl
    exact expandSelfClosing_append_open left right
  · rintro left right rfl
    exact expandSelfClosing_append_bracket left right

theorem expandSelfClosing_local_image :
    expandSelfClosing "<p>a<img src='a/b.png' />b".toList =
        "<p>a<img src='a/b.png'>b".toList ∧
      expandSelfClosing "<a href='x/'>y</a>".toList = "<a href='x/'>y</a>".toList := by
  constructor
  · rcases expandSelfClosing_local "<p>a<img src='a/b.png' />b".toList with ⟨-, -, atTag, -⟩
    exact (atTag "<p>a".toList
      ⟨"img".toList, " src='a/b.png' ".toList, by decide, by decide, by decide, by decide⟩
      "b".toList (by decide +kernel)).trans (by decide +kernel)
  · rcases expandSelfClosing_local "<a href='x/'>y</a>".toList with ⟨-, -, -, -, -, unslashed⟩
    exact unslashed (by decide +kernel)

end Source

end ChatMarkup
