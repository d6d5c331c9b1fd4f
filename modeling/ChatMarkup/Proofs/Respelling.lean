import ChatMarkup.Proofs.EscapeRoundTrip
import ChatMarkup.Proofs.PlainPage

/-!
Tag names in another case. Two pages are respelled forms of each other if they differ only in the
case of letters that stand in a name right after an opening bracket. Preparing a page for which case
does not matter goes by the same steps on both, so it leaves respelled forms again.
-/

namespace ChatMarkup

open Text Source

/-! ## Letters -/

theorem forall_isAlpha (property : Char → Prop)
    (holds : ∀ code < 128, (Char.ofNat code).isAlpha = true → property (Char.ofNat code))
    {char : Char} (letter : char.isAlpha = true) : property char := by
  have small : char.toNat < 128 := by
    rcases Bool.or_eq_true_iff.mp letter with upper | lower
    · exact Nat.lt_of_le_of_lt (of_decide_eq_true upper).2 (by decide)
    · exact Nat.lt_of_le_of_lt (of_decide_eq_true (Bool.and_eq_true _ _ |>.mp lower).2) (by decide)
  have checked := holds char.toNat small
  rw [Char.ofNat_toNat] at checked
  exact checked letter

theorem ne_of_isAlpha {char other : Char} (letter : char.isAlpha = true)
    (different : other.isAlpha = false) : char ≠ other := by
  rintro rfl
  rw [letter] at different
  cases different

theorem isNameChar_of_isAlpha {char : Char} (letter : char.isAlpha = true) :
    Markup.isNameChar char = true :=
  forall_isAlpha (fun char => Markup.isNameChar char = true) (by decide +kernel) letter

theorem isBlank_of_isNameChar {char : Char} (named : Markup.isNameChar char = true) :
    isBlank char = false := by
  simp only [Markup.isNameChar, Char.isAlphanum, Bool.or_eq_true, beq_iff_eq] at named
  rcases named with (((((letter | digit) | rfl) | rfl) | rfl) | rfl) | rfl
  · exact forall_isAlpha (fun char => isBlank char = false) (by decide +kernel) letter
  · have plain : isPlainChar char = true := by simp [isPlainChar, digit]
    exact isBlank_of_isPlainChar plain
  all_goals decide

theorem isTagNameChar_of_isAlpha {char : Char} (letter : char.isAlpha = true) :
    isTagNameChar char = true :=
  forall_isAlpha (fun char => isTagNameChar char = true) (by decide +kernel) letter

theorem isWord_of_isAlpha {char : Char} (letter : char.isAlpha = true) : isWord char = true :=
  forall_isAlpha (fun char => isWord char = true) (by decide +kernel) letter

/-! ## Pages -/

/-- What follows a character stands in a name right after an opening bracket. -/
def inTagName (before : Bool) (char : Char) : Bool :=
  char == '<' || (before && Markup.isNameChar char)

/-- A blank character ends a name. -/
theorem inTagName_of_blank {before : Bool} {char : Char} (blank : isBlank char = true) :
    inTagName before char = false := by
  have notBracket : char ≠ '<' := by
    rintro rfl
    cases blank
  have noName : Markup.isNameChar char = false := by
    rw [Bool.eq_false_iff]
    intro named
    rw [isBlank_of_isNameChar named] at blank
    cases blank
  simp [inTagName, notBracket, noName]

theorem inTagName_of_isAlpha {char : Char} (letter : char.isAlpha = true) :
    inTagName true char = true := by
  rw [inTagName, isNameChar_of_isAlpha letter, Bool.true_and, Bool.or_true]

def respellFrom : Bool → List Char → List Char
  | _, [] => []
  | inName, char :: rest =>
    (if inName then char.toLower else char) :: respellFrom (inTagName inName char) rest

/-- The page with the names of its tags in lower case, as far as they stand right after the opening
bracket. -/
def lowercaseTagNames (page : List Char) : List Char := respellFrom false page

example : lowercaseTagNames "<BR a=B>C</P>< D>".toList = "<br a=B>C</p>< D>".toList := by
  decide +kernel

/-- The texts agree but for the case of letters in names right after an opening bracket; `inName`
says whether they begin in such a name. -/
inductive Respelled : Bool → List Char → List Char → Prop
  | nil (inName : Bool) : Respelled inName [] []
  | same {inName : Bool} (char : Char) {left right : List Char} :
      Respelled (inTagName inName char) left right → Respelled inName (char :: left) (char :: right)
  | letter {leftLetter rightLetter : Char} (leftAlpha : leftLetter.isAlpha = true)
      (rightAlpha : rightLetter.isAlpha = true)
      (sameLetter : leftLetter.toLower = rightLetter.toLower) {left right : List Char} :
      Respelled true left right → Respelled true (leftLetter :: left) (rightLetter :: right)

namespace Respelled

variable {inName : Bool} {left right : List Char}

theorem refl (text : List Char) : Respelled inName text text := by
  induction text generalizing inName with
  | nil => exact nil inName
  | cons char rest induction => exact same char induction

/-- What holds outside of a name holds inside of one. -/
theorem weaken (respelled : Respelled false left right) : Respelled inName left right := by
  have general {before after : Bool} (stronger : before = true → after = true)
      {left right : List Char} (respelled : Respelled before left right) :
      Respelled after left right := by
    induction respelled generalizing after with
    | nil => exact nil after
    | @same before char left right rest induction =>
        refine same char (induction fun inside => ?_)
        rw [inTagName, Bool.or_eq_true, Bool.and_eq_true] at inside ⊢
        exact inside.imp_right fun inside => ⟨stronger inside.1, inside.2⟩
    | letter leftAlpha rightAlpha sameLetter rest induction =>
        rw [stronger rfl]
        exact letter leftAlpha rightAlpha sameLetter (induction fun _ => rfl)
  exact general (fun inside => Bool.noConfusion inside) respelled

theorem inside (respelled : Respelled inName left right) : Respelled true left right := by
  cases inName with
  | true => exact respelled
  | false => exact respelled.weaken

theorem append {leftRest rightRest : List Char} (respelled : Respelled inName left right)
    (rest : Respelled false leftRest rightRest) :
    Respelled inName (left ++ leftRest) (right ++ rightRest) := by
  induction respelled with
  | nil => exact rest.weaken
  | same char _ induction => exact same char induction
  | letter leftAlpha rightAlpha sameLetter _ induction =>
      exact letter leftAlpha rightAlpha sameLetter induction

theorem map_toLower (respelled : Respelled inName left right) :
    left.map Char.toLower = right.map Char.toLower := by
  induction respelled with
  | nil => rfl
  | same char _ induction => rw [List.map_cons, List.map_cons, induction]
  | letter _ _ sameLetter _ induction => rw [List.map_cons, List.map_cons, sameLetter, induction]

theorem lowercaseName_eq (respelled : Respelled inName left right) :
    lowercaseName (String.ofList left) = lowercaseName (String.ofList right) := by
  rw [lowercaseName, lowercaseName, String.toList_ofList, String.toList_ofList,
    respelled.map_toLower]

/-- A blank character ends the name. -/
theorem of_head_blank (respelled : Respelled true left right)
    (blank : left.head?.all isBlank = true) : Respelled false left right := by
  cases respelled with
  | nil => exact nil false
  | same char rest =>
      refine same char ?_
      rw [inTagName_of_blank blank] at rest ⊢
      exact rest
  | letter leftAlpha _ _ _ =>
      have notBlank := isBlank_of_isNameChar (isNameChar_of_isAlpha leftAlpha)
      rw [List.head?_cons, Option.all_some, notBlank] at blank
      cases blank

end Respelled

theorem respelled_respellFrom (inName : Bool) (page : List Char) :
    Respelled inName page (respellFrom inName page) := by
  induction page generalizing inName with
  | nil => exact .nil inName
  | cons char rest induction =>
      have spelled := @induction (inTagName inName char)
      cases inName with
      | false => exact .same char spelled
      | true =>
          by_cases upper : char.isUpper = true
          · have letter : char.isAlpha = true := Bool.or_eq_true_iff.mpr (.inl upper)
            have lower : char.toLower.isAlpha = true ∧ char.toLower.toLower = char.toLower :=
              forall_isAlpha (fun char => char.toLower.isAlpha = true ∧
                char.toLower.toLower = char.toLower) (by decide +kernel) letter
            rw [inTagName_of_isAlpha letter] at spelled
            rw [respellFrom, inTagName_of_isAlpha letter]
            exact .letter letter lower.1 lower.2.symm spelled
          · rw [respellFrom, toLower_eq_self (Bool.eq_false_iff.mpr upper), ite_self]
            exact .same char spelled

theorem respelled_lowercaseTagNames (page : List Char) :
    Respelled false page (lowercaseTagNames page) :=
  respelled_respellFrom false page

/-! ## Trimming -/

namespace Respelled

variable {inName : Bool} {left right : List Char}

/-- A test by which letters are told apart from other characters at most. -/
def IgnoresLetters (test : Char → Bool) : Prop :=
  ∀ {letter other : Char}, letter.isAlpha = true → other.isAlpha = true → test letter = test other

theorem ignoresLetters_of_eq {test : Char → Bool} {value : Bool}
    (same : ∀ {letter : Char}, letter.isAlpha = true → test letter = value) :
    IgnoresLetters test := fun first second => (same first).trans (same second).symm

theorem ignoresLetters_isBlank : IgnoresLetters isBlank :=
  ignoresLetters_of_eq fun letter => isBlank_of_isNameChar (isNameChar_of_isAlpha letter)

theorem ignoresLetters_isTagNameChar : IgnoresLetters isTagNameChar :=
  ignoresLetters_of_eq isTagNameChar_of_isAlpha

theorem ignoresLetters_ne {other : Char} (noLetter : other.isAlpha = false) :
    IgnoresLetters (· != other) :=
  ignoresLetters_of_eq fun letter => bne_iff_ne.mpr (ne_of_isAlpha letter noLetter)

theorem isEmpty_eq (respelled : Respelled inName left right) : left.isEmpty = right.isEmpty := by
  cases respelled <;> rfl

theorem trimEnd (respelled : Respelled inName left right) :
    Respelled inName (Text.trimEnd left) (Text.trimEnd right) := by
  have trimEnd_cons (char : Char) (rest : List Char) :
      Text.trimEnd (char :: rest) =
        if (Text.trimEnd rest).isEmpty && isBlank char then [] else char :: Text.trimEnd rest := by
    rw [Text.trimEnd, trimEndWhere, Text.trimEnd]
    cases trimEndWhere isBlank rest <;> simp
  induction respelled with
  | nil => exact nil _
  | same char _ induction =>
      rw [trimEnd_cons, trimEnd_cons, induction.isEmpty_eq]
      split
      · exact nil _
      · exact same char induction
  | letter leftAlpha rightAlpha sameLetter _ induction =>
      rw [trimEnd_cons, trimEnd_cons, induction.isEmpty_eq,
        ignoresLetters_isBlank leftAlpha rightAlpha]
      split
      · exact nil _
      · exact letter leftAlpha rightAlpha sameLetter induction

theorem trimStart (respelled : Respelled inName left right) :
    Respelled inName (Text.trimStart left) (Text.trimStart right) := by
  rw [Text.trimStart, Text.trimStart]
  induction respelled with
  | nil => exact nil _
  | same char rest induction =>
      rw [List.dropWhile_cons, List.dropWhile_cons]
      split
      · rename_i blank
        rw [inTagName_of_blank blank] at induction
        exact induction.weaken
      · exact same char rest
  | letter leftAlpha rightAlpha sameLetter rest induction =>
      rw [List.dropWhile_cons, List.dropWhile_cons, ignoresLetters_isBlank leftAlpha rightAlpha]
      split
      · exact induction
      · exact letter leftAlpha rightAlpha sameLetter rest

theorem trim (respelled : Respelled inName left right) :
    Respelled inName (Text.trim left) (Text.trim right) :=
  respelled.trimStart.trimEnd

theorem head?_any {test : Char → Bool} (ignores : IgnoresLetters test)
    (respelled : Respelled inName left right) : left.head?.any test = right.head?.any test := by
  cases respelled with
  | nil => rfl
  | same => rfl
  | letter leftAlpha rightAlpha => exact ignores leftAlpha rightAlpha

theorem takeWhile {test : Char → Bool} (ignores : IgnoresLetters test)
    (respelled : Respelled inName left right) :
    Respelled inName (left.takeWhile test) (right.takeWhile test) := by
  induction respelled with
  | nil => exact nil _
  | same char _ induction =>
      rw [List.takeWhile_cons, List.takeWhile_cons]
      split
      · exact same char induction
      · exact nil _
  | letter leftAlpha rightAlpha sameLetter _ induction =>
      rw [List.takeWhile_cons, List.takeWhile_cons, ignores leftAlpha rightAlpha]
      split
      · exact letter leftAlpha rightAlpha sameLetter induction
      · exact nil _

/-- Both texts have a closing bracket, and what follows it is outside of names, or neither has. -/
theorem dropWhile_bracket (respelled : Respelled inName left right) :
    (left.dropWhile (· != '>') = [] ∧ right.dropWhile (· != '>') = []) ∨
      ∃ leftRest rightRest, left.dropWhile (· != '>') = '>' :: leftRest ∧
        right.dropWhile (· != '>') = '>' :: rightRest ∧ Respelled false leftRest rightRest := by
  induction respelled with
  | nil => exact .inl ⟨rfl, rfl⟩
  | @same inName char left right rest induction =>
      by_cases bracket : char = '>'
      · subst bracket
        have outside : inTagName inName '>' = false := by cases inName <;> decide
        rw [outside] at rest
        exact .inr ⟨left, right, rfl, rfl, rest⟩
      · simpa [bracket] using induction
  | letter leftAlpha rightAlpha _ _ induction =>
      have leftNe := ne_of_isAlpha leftAlpha (by decide : '>'.isAlpha = false)
      have rightNe := ne_of_isAlpha rightAlpha (by decide : '>'.isAlpha = false)
      simpa [leftNe, rightNe] using induction

/-! ## Removing hidden elements -/

section Hidden

def IsLowercase (name : List Char) : Prop := name.map Char.toLower = name

theorem matchesLetter_eq {leftLetter rightLetter : Char} (leftAlpha : leftLetter.isAlpha = true)
    (rightAlpha : rightLetter.isAlpha = true)
    (sameLetter : leftLetter.toLower = rightLetter.toLower) {letter : Char}
    (lower : letter.toLower = letter) :
    matchesLetter true letter leftLetter = matchesLetter true letter rightLetter := by
  have byCase {char : Char} (alpha : char.isAlpha = true) :
      matchesLetter true letter char = (char.toLower == letter) := by
    have notLong : (char == 'ſ') = false := beq_eq_false_iff_ne.mpr (ne_of_isAlpha alpha (by decide))
    by_cases equal : char = letter
    · simp [matchesLetter, equal, lower]
    · simp [matchesLetter, beq_eq_false_iff_ne.mpr equal, notLong]
  rw [byCase leftAlpha, byCase rightAlpha, sameLetter]

/-- What follows a name that both texts begin with, or the lack of it in both. -/
theorem afterName? {name : List Char} (lower : IsLowercase name)
    (respelled : Respelled true left right) :
    Option.Rel (Respelled true) (Source.afterName? true name left)
      (Source.afterName? true name right) := by
  induction name generalizing left right with
  | nil => exact .some respelled
  | cons letter name induction =>
      rw [IsLowercase, List.map_cons, List.cons.injEq] at lower
      cases respelled with
      | nil => exact .none
      | same char rest =>
          rw [Source.afterName?, Source.afterName?]
          split
          · exact induction lower.2 rest.inside
          · exact .none
      | letter leftAlpha rightAlpha sameLetter rest =>
          rw [Source.afterName?, Source.afterName?,
            matchesLetter_eq leftAlpha rightAlpha sameLetter lower.1]
          split
          · exact induction lower.2 rest
          · exact .none

theorem rel_cases {relation : List Char → List Char → Prop} {left right : Option (List Char)}
    (related : Option.Rel relation left right) :
    (left = none ∧ right = none) ∨
      ∃ leftRest rightRest, left = some leftRest ∧ right = some rightRest ∧
        relation leftRest rightRest := by
  cases related with
  | none => exact .inl ⟨rfl, rfl⟩
  | some rest => exact .inr ⟨_, _, rfl, rfl, rest⟩

/-- What is looked for behind something that both have is in both of them or in neither. -/
theorem rel_bind {relation after : List Char → List Char → Prop} {left right : Option (List Char)}
    {leftNext rightNext : List Char → Option (List Char)} :
    Option.Rel relation left right →
      (∀ leftRest rightRest, relation leftRest rightRest →
        Option.Rel after (leftNext leftRest) (rightNext rightRest)) →
      Option.Rel after
        (match left with
          | none => none
          | some rest => leftNext rest)
        (match right with
          | none => none
          | some rest => rightNext rest) := by
  intro related next
  cases related with
  | none => exact .none
  | some rest => exact next _ _ rest

theorem afterStartTag? {name : List Char} (lower : IsLowercase name)
    (respelled : Respelled true left right) :
    Option.Rel (Respelled false) (Source.afterStartTag? true name left)
      (Source.afterStartTag? true name right) := by
  have named : IsLowercase ('<' :: name) := congrArg ('<' :: ·) lower
  rw [Source.afterStartTag?, Source.afterStartTag?]
  refine rel_bind (respelled.afterName? named) fun leftRest rightRest rest => ?_
  rw [rest.head?_any (ignoresLetters_of_eq isWord_of_isAlpha)]
  split
  · exact .none
  · rcases rest.dropWhile_bracket with
      ⟨leftNil, rightNil⟩ | ⟨leftBody, rightBody, leftCons, rightCons, body⟩
    · rw [leftNil, rightNil]
      exact .none
    · rw [leftCons, rightCons]
      exact .some body

theorem afterEndTag? {name : List Char} (lower : IsLowercase name)
    (respelled : Respelled true left right) :
    Option.Rel (Respelled false) (Source.afterEndTag? true name left)
      (Source.afterEndTag? true name right) := by
  have named : IsLowercase ('<' :: '/' :: name) := congrArg ('<' :: '/' :: ·) lower
  rw [Source.afterEndTag?, Source.afterEndTag?]
  refine rel_bind (respelled.afterName? named) fun leftRest rightRest rest => ?_
  generalize leftTrimmed : Text.trimStart leftRest = leftText
  generalize rightTrimmed : Text.trimStart rightRest = rightText
  have trimmed := rest.trimStart
  rw [leftTrimmed, rightTrimmed] at trimmed
  cases trimmed with
  | nil => exact .none
  | same char after =>
      split
      · rename_i bracket
        rcases List.cons.inj bracket with ⟨rfl, rfl⟩
        exact .some after
      · rename_i noBracket
        split
        · rename_i bracket
          exact absurd (congrArg (· :: _) (List.cons.inj bracket).1) (noBracket _)
        · exact .none
  | letter leftAlpha rightAlpha =>
      split
      · rename_i bracket
        exact absurd (List.cons.inj bracket).1 (ne_of_isAlpha leftAlpha (by decide))
      · split
        · rename_i bracket
          exact absurd (List.cons.inj bracket).1 (ne_of_isAlpha rightAlpha (by decide))
        · exact .none

theorem afterBody? {name : List Char} (lower : IsLowercase name)
    (respelled : Respelled inName left right) :
    Option.Rel (Respelled false) (Source.afterBody? true name left)
      (Source.afterBody? true name right) := by
  have step {leftChar rightChar : Char} {left right : List Char}
      (whole : Respelled true (leftChar :: left) (rightChar :: right))
      (rest : Option.Rel (Respelled false) (Source.afterBody? true name left)
        (Source.afterBody? true name right)) :
      Option.Rel (Respelled false) (Source.afterBody? true name (leftChar :: left))
        (Source.afterBody? true name (rightChar :: right)) := by
    rw [Source.afterBody?, Source.afterBody?]
    rcases rel_cases (whole.afterEndTag? lower) with
      ⟨leftNone, rightNone⟩ | ⟨leftAfter, rightAfter, leftSome, rightSome, after⟩
    · rw [leftNone, rightNone]
      exact rest
    · rw [leftSome, rightSome]
      exact .some after
  induction respelled with
  | nil => exact .none
  | same char rest induction => exact step (same char rest).inside induction
  | letter leftAlpha rightAlpha sameLetter rest induction =>
      exact step (letter leftAlpha rightAlpha sameLetter rest) induction

theorem afterHidden? (respelled : Respelled true left right) :
    Option.Rel (Respelled false) (Source.afterHidden? true left)
      (Source.afterHidden? true right) := by
  have element {name : List Char} (lower : IsLowercase name) :
      Option.Rel (Respelled false) (afterElement? true left name)
        (afterElement? true right name) := by
    rw [afterElement?, afterElement?]
    exact rel_bind (respelled.afterStartTag? lower) fun _ _ body => body.afterBody? lower
  have search (names : List (List Char)) (lower : ∀ name ∈ names, IsLowercase name) :
      Option.Rel (Respelled false) (names.findSome? (afterElement? true left))
        (names.findSome? (afterElement? true right)) := by
    induction names with
    | nil => exact .none
    | cons name names induction =>
        rw [List.forall_mem_cons] at lower
        rw [List.findSome?_cons, List.findSome?_cons]
        rcases rel_cases (element lower.1) with
          ⟨leftNone, rightNone⟩ | ⟨leftAfter, rightAfter, leftSome, rightSome, after⟩
        · rw [leftNone, rightNone]
          exact induction lower.2
        · rw [leftSome, rightSome]
          exact .some after
  exact search hiddenNames (by unfold IsLowercase; decide +kernel)

theorem removeHidden (respelled : Respelled inName left right) :
    Respelled inName (removeHiddenWhere true left) (removeHiddenWhere true right) := by
  fun_induction removeHiddenWhere true left generalizing inName right with
  | case1 =>
      cases respelled
      rw [removeHiddenWhere]
      exact nil _
  | case2 char rest after found induction =>
      rcases rel_cases respelled.inside.afterHidden? with
        ⟨leftNone, -⟩ | ⟨leftAfter, rightAfter, leftSome, rightSome, afterwards⟩
      · rw [found] at leftNone
        cases leftNone
      · rw [found, Option.some.injEq] at leftSome
        subst leftSome
        have removed : removeHiddenWhere true right = removeHiddenWhere true rightAfter := by
          cases respelled <;> rw [removeHiddenWhere, rightSome]
        rw [removed]
        exact (induction afterwards).weaken
  | case3 char rest absent induction =>
      rcases rel_cases respelled.inside.afterHidden? with
        ⟨-, rightNone⟩ | ⟨leftAfter, rightAfter, leftSome, -, -⟩
      · cases respelled with
        | same _ respelled =>
            rw [removeHiddenWhere, rightNone]
            exact same char (induction respelled)
        | letter leftAlpha rightAlpha sameLetter respelled =>
            rw [removeHiddenWhere, rightNone]
            exact letter leftAlpha rightAlpha sameLetter (induction respelled)
      · rw [absent] at leftSome
        cases leftSome

end Hidden

/-! ## Expanding self-closing tags -/

section Expansion

theorem dropWhile_name (respelled : Respelled inName left right) :
    Respelled true (left.dropWhile isTagNameChar) (right.dropWhile isTagNameChar) := by
  induction respelled with
  | nil => exact nil _
  | same char rest induction =>
      rw [List.dropWhile_cons, List.dropWhile_cons]
      split
      · exact induction
      · exact (same char rest).inside
  | letter leftAlpha rightAlpha sameLetter rest induction =>
      rw [List.dropWhile_cons, List.dropWhile_cons, isTagNameChar_of_isAlpha leftAlpha,
        isTagNameChar_of_isAlpha rightAlpha]
      exact induction

/-- The names at the start of both texts, and what follows them. -/
theorem splitName? (respelled : Respelled true left right) :
    (Source.splitName? left = none ∧ Source.splitName? right = none) ∨
      ∃ leftName leftRest rightName rightRest,
        Source.splitName? left = some (leftName, leftRest) ∧
          Source.splitName? right = some (rightName, rightRest) ∧
            Respelled true leftName rightName ∧ Respelled true leftRest rightRest := by
  have parts : Respelled true (left.takeWhile isTagNameChar) (right.takeWhile isTagNameChar) ∧
      Respelled true (left.dropWhile isTagNameChar) (right.dropWhile isTagNameChar) :=
    ⟨respelled.takeWhile ignoresLetters_isTagNameChar, respelled.dropWhile_name⟩
  cases respelled with
  | nil => exact .inl ⟨rfl, rfl⟩
  | same char rest =>
      by_cases alpha : char.isAlpha = true
      · refine .inr ⟨_, _, _, _, ?_, ?_, parts⟩ <;>
          rw [Source.splitName?, if_pos alpha, List.span_eq_takeWhile_dropWhile]
      · refine .inl ⟨?_, ?_⟩ <;> rw [Source.splitName?, if_neg alpha]
  | letter leftAlpha rightAlpha sameLetter rest =>
      refine .inr ⟨_, _, _, _, ?_, ?_, parts⟩
      · rw [Source.splitName?, if_pos leftAlpha, List.span_eq_takeWhile_dropWhile]
      · rw [Source.splitName?, if_pos rightAlpha, List.span_eq_takeWhile_dropWhile]

theorem nil_or_cons (respelled : Respelled inName left right) :
    (left = [] ∧ right = []) ∨ ∃ leftChar leftRest rightChar rightRest,
      left = leftChar :: leftRest ∧ right = rightChar :: rightRest := by
  cases respelled with
  | nil => exact .inl ⟨rfl, rfl⟩
  | same => exact .inr ⟨_, _, _, _, rfl, rfl⟩
  | letter => exact .inr ⟨_, _, _, _, rfl, rfl⟩

theorem dropLast (respelled : Respelled inName left right) :
    Respelled inName left.dropLast right.dropLast := by
  induction respelled with
  | nil => exact nil _
  | same char rest induction =>
      rcases rest.nil_or_cons with ⟨rfl, rfl⟩ | ⟨_, _, _, _, rfl, rfl⟩
      · exact nil _
      · exact same char induction
  | letter leftAlpha rightAlpha sameLetter rest induction =>
      rcases rest.nil_or_cons with ⟨rfl, rfl⟩ | ⟨_, _, _, _, rfl, rfl⟩
      · exact nil _
      · exact letter leftAlpha rightAlpha sameLetter induction

theorem getLast?_slash (respelled : Respelled inName left right) :
    (left.getLast? == some '/') = (right.getLast? == some '/') := by
  induction respelled with
  | nil => rfl
  | same char rest induction =>
      rcases rest.nil_or_cons with ⟨rfl, rfl⟩ | ⟨_, _, _, _, rfl, rfl⟩
      · rfl
      · simpa only [List.getLast?_cons_cons] using induction
  | letter leftAlpha rightAlpha sameLetter rest induction =>
      rcases rest.nil_or_cons with ⟨rfl, rfl⟩ | ⟨_, _, _, _, rfl, rfl⟩
      · have leftNe := ne_of_isAlpha leftAlpha (by decide : '/'.isAlpha = false)
        have rightNe := ne_of_isAlpha rightAlpha (by decide : '/'.isAlpha = false)
        simp [leftNe, rightNe]
      · simpa only [List.getLast?_cons_cons] using induction

theorem head?_all_isBlank (respelled : Respelled inName left right) :
    left.head?.all isBlank = right.head?.all isBlank := by
  cases respelled with
  | nil => rfl
  | same => rfl
  | letter leftAlpha rightAlpha => exact ignoresLetters_isBlank leftAlpha rightAlpha

/-- The attributes before a closing slash in both texts, and what follows the tags. -/
theorem splitSlash? (respelled : Respelled true left right) :
    (Source.splitSlash? left = none ∧ Source.splitSlash? right = none) ∨
      ∃ leftAttributes leftRest rightAttributes rightRest,
        Source.splitSlash? left = some (leftAttributes, leftRest) ∧
          Source.splitSlash? right = some (rightAttributes, rightRest) ∧
            Respelled false leftAttributes rightAttributes ∧
              Respelled false leftRest rightRest := by
  have inside := respelled.takeWhile (ignoresLetters_ne (by decide : '>'.isAlpha = false))
  rw [Source.splitSlash?, Source.splitSlash?, List.span_eq_takeWhile_dropWhile,
    List.span_eq_takeWhile_dropWhile]
  rcases respelled.dropWhile_bracket with
    ⟨leftNil, rightNil⟩ | ⟨leftRest, rightRest, leftCons, rightCons, rest⟩
  · rw [leftNil, rightNil]
    exact .inl ⟨rfl, rfl⟩
  · rw [leftCons, rightCons]
    dsimp only
    rw [inside.getLast?_slash, inside.dropLast.head?_all_isBlank]
    split
    · rename_i slashed
      rw [Bool.and_eq_true, ← inside.dropLast.head?_all_isBlank] at slashed
      exact .inr ⟨_, _, _, _, rfl, rfl, inside.dropLast.of_head_blank slashed.2, rest⟩
    · exact .inl ⟨rfl, rfl⟩

theorem openTag {leftAttributes rightAttributes : List Char} (name : Respelled true left right)
    (attributes : Respelled false leftAttributes rightAttributes) :
    Respelled true (Source.openTag left leftAttributes)
      (Source.openTag right rightAttributes) := by
  have voidName : isVoidName (String.ofList left) = isVoidName (String.ofList right) := by
    rw [isVoidName, isVoidName, name.lowercaseName_eq]
  rw [Source.openTag, Source.openTag, voidName]
  refine (name.append attributes.trimEnd).append ?_
  split
  · exact refl _
  · exact same '>' (same '<' (same '/' (name.append (refl _))))

theorem expandStretch (respelled : Respelled true left right) :
    Respelled false (Source.expandStretch left) (Source.expandStretch right) := by
  have unexpanded : Respelled false ('<' :: left) ('<' :: right) := same '<' respelled
  rw [Source.expandStretch, Source.expandStretch]
  rcases respelled.splitName? with
    ⟨leftNone, rightNone⟩ | ⟨leftName, leftRest, rightName, rightRest, leftSome, rightSome, name, rest⟩
  · rw [leftNone, rightNone]
    exact unexpanded
  · rw [leftSome, rightSome]
    dsimp only
    rcases rest.splitSlash? with
      ⟨leftNone, rightNone⟩ | ⟨leftAttributes, leftAfter, rightAttributes, rightAfter, leftSome,
        rightSome, attributes, after⟩
    · rw [leftNone, rightNone]
      exact unexpanded
    · rw [leftSome, rightSome]
      exact same '<' ((name.openTag attributes).append after)

/-- The stretches between the opening brackets of both texts, one by one. -/
theorem splitAtChar (respelled : Respelled inName left right) :
    ∃ leftPlain leftStretches rightPlain rightStretches,
      Text.splitAtChar '<' left = leftPlain :: leftStretches ∧
        Text.splitAtChar '<' right = rightPlain :: rightStretches ∧
          Respelled inName leftPlain rightPlain ∧
            List.Forall₂ (Respelled true) leftStretches rightStretches := by
  induction respelled with
  | nil => exact ⟨[], [], [], [], rfl, rfl, nil _, .nil⟩
  | same char rest induction =>
      rcases induction with
        ⟨leftPlain, leftStretches, rightPlain, rightStretches, leftSplit, rightSplit, plain, stretches⟩
      by_cases bracket : char = '<'
      · subst bracket
        rw [Text.splitAtChar, Text.splitAtChar, leftSplit, rightSplit]
        exact ⟨_, _, _, _, rfl, rfl, nil _, .cons plain.inside stretches⟩
      · rw [Text.splitAtChar, Text.splitAtChar, leftSplit, rightSplit, if_neg bracket, if_neg bracket]
        exact ⟨_, _, _, _, rfl, rfl, same char plain, stretches⟩
  | letter leftAlpha rightAlpha sameLetter rest induction =>
      rcases induction with
        ⟨leftPlain, leftStretches, rightPlain, rightStretches, leftSplit, rightSplit, plain, stretches⟩
      rw [Text.splitAtChar, Text.splitAtChar, leftSplit, rightSplit,
        if_neg (ne_of_isAlpha leftAlpha (by decide)), if_neg (ne_of_isAlpha rightAlpha (by decide))]
      exact ⟨_, _, _, _, rfl, rfl, letter leftAlpha rightAlpha sameLetter plain, stretches⟩

theorem expandSelfClosing (respelled : Respelled inName left right) :
    Respelled inName (Source.expandSelfClosing left) (Source.expandSelfClosing right) := by
  have expand {leftStretches rightStretches : List (List Char)}
      (stretches : List.Forall₂ (Respelled true) leftStretches rightStretches) :
      Respelled false (leftStretches.flatMap Source.expandStretch)
        (rightStretches.flatMap Source.expandStretch) := by
    induction stretches with
    | nil => exact nil _
    | cons stretch _ induction =>
        rw [List.flatMap_cons, List.flatMap_cons]
        exact stretch.expandStretch.append induction
  rcases respelled.splitAtChar with
    ⟨leftPlain, leftStretches, rightPlain, rightStretches, leftSplit, rightSplit, plain, stretches⟩
  rw [Source.expandSelfClosing, Source.expandSelfClosing, leftSplit, rightSplit]
  exact plain.append (expand stretches)

end Expansion

/-- Prepared pages for which case does not matter are respelled forms if the pages are. -/
theorem prepare {options : Options} (anyCase : options.lowercaseTags = true)
    (respelled : Respelled inName left right) :
    Respelled inName (ChatMarkup.prepare options left) (ChatMarkup.prepare options right) := by
  rw [ChatMarkup.prepare, ChatMarkup.prepare, Source.removeHidden, Source.removeHidden, anyCase]
  exact respelled.removeHidden.expandSelfClosing

end Respelled

end ChatMarkup
