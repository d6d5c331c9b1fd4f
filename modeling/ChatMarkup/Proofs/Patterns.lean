import ChatMarkup.Text.Lines

/-!
Patterns, and texts in which all matches of a pattern are replaced. A pattern tries its ways to
match one after the other, and the first way that goes through is taken. Texts are searched from the
left, and the search goes on behind a match.
-/

namespace ChatMarkup.Text

/-- The ways in which a text can begin with a match: what is kept of the match, and the text behind
it. The preferred way comes first. -/
def Pattern (Kept : Type) := List Char → List (Kept × List Char)

namespace Pattern

variable {Kept Next : Type}

/-! ## Matching -/

def keep (value : Kept) : Pattern Kept := fun text => [(value, text)]

def one (test : Char → Bool) : Pattern Char
  | [] => []
  | char :: rest => if test char then [(char, rest)] else []

def many (test : Char → Bool) : Pattern (List Char)
  | [] => [([], [])]
  | char :: rest =>
    (if test char then (many test rest).map (Prod.map (char :: ·) id) else []) ++
      [([], char :: rest)]

def few (test : Char → Bool) : Pattern (List Char)
  | [] => [([], [])]
  | char :: rest =>
    ([], char :: rest) ::
      if test char then (few test rest).map (Prod.map (char :: ·) id) else []

/-- A match that is left out where the rest can do without it. -/
def perhaps (pattern : Pattern (List Char)) : Pattern (List Char) :=
  fun text => ([], text) :: pattern text

/-- For every way of the first pattern, in order, the ways to go on behind it. -/
def followedBy (first : Pattern Kept) (next : Kept → Pattern Next) : Pattern Next :=
  fun text => (first text).flatMap fun way => next way.1 way.2

theorem followedBy_assoc {Last : Type} (first : Pattern Kept) (next : Kept → Pattern Next)
    (last : Next → Pattern Last) :
    (first.followedBy next).followedBy last =
      first.followedBy fun kept => (next kept).followedBy last :=
  funext fun _ => List.flatMap_assoc

theorem keep_followedBy (value : Kept) (next : Kept → Pattern Next) :
    (keep value).followedBy next = next value :=
  funext fun _ => List.flatMap_singleton _ _

def first? (pattern : Pattern Kept) (text : List Char) : Option (Kept × List Char) :=
  (pattern text).head?

/-! ## Replacing -/

/-- The text with every match replaced. A match that takes no character is passed over. -/
def replaceAll (pattern : Pattern Kept) (replacement : Kept → List Char) : List Char → List Char
  | [] => []
  | char :: rest =>
    match pattern.first? (char :: rest) with
    | some (kept, after) =>
      if after.length ≤ rest.length then
        replacement kept ++ replaceAll pattern replacement after
      else char :: replaceAll pattern replacement rest
    | none => char :: replaceAll pattern replacement rest
termination_by text => text.length

example : (many (· == 'a')).replaceAll (fun _ => ['b']) "aacaa".toList = "bcb".toList := by
  decide +kernel

section Replacing

variable {pattern : Pattern Kept} {text after : List Char} {kept : Kept}

theorem replaceAll_of_first? (replacement : Kept → List Char)
    (found : pattern.first? text = some (kept, after)) (shorter : after.length < text.length) :
    pattern.replaceAll replacement text =
      replacement kept ++ pattern.replaceAll replacement after := by
  cases text with
  | nil => exact absurd shorter (Nat.not_lt_zero _)
  | cons char rest =>
      rw [replaceAll, found]
      exact if_pos (Nat.le_of_lt_succ shorter)

theorem replaceAll_of_absent (replacement : Kept → List Char) {char : Char} {rest : List Char}
    (absent : pattern.first? (char :: rest) = none) :
    pattern.replaceAll replacement (char :: rest) =
      char :: pattern.replaceAll replacement rest := by
  rw [replaceAll, absent]

end Replacing

/-! ## The first way -/

@[simp] theorem first?_one_cons (test : Char → Bool) (char : Char) (rest : List Char) :
    (one test).first? (char :: rest) = if test char then some (char, rest) else none := by
  rw [first?, one]
  split <;> rfl

theorem first?_followedBy (first : Pattern Kept) (next : Kept → Pattern Next) (text : List Char) :
    (first.followedBy next).first? text =
      (first text).findSome? fun way => (next way.1).first? way.2 := by
  rw [first?, followedBy, List.head?_flatMap]
  rfl

/-- A single character is matched in one way only. -/
theorem first?_one_followedBy (test : Char → Bool) (next : Char → Pattern Next) (char : Char)
    (rest : List Char) :
    ((one test).followedBy next).first? (char :: rest) =
      if test char then (next char).first? rest else none := by
  rw [first?_followedBy, one]
  split <;> simp

theorem first?_one_followedBy_nil (test : Char → Bool) (next : Char → Pattern Next) :
    ((one test).followedBy next).first? [] = none := rfl

theorem first?_many (test : Char → Bool) (text : List Char) :
    (many test).first? text = some (text.takeWhile test, text.dropWhile test) := by
  induction text with
  | nil => rfl
  | cons char rest induction =>
      rw [first?] at induction
      rw [first?, many]
      cases passes : test char <;> simp [passes, induction]

theorem first?_few_followedBy_nil (test : Char → Bool) (next : List Char → Pattern Next) :
    ((few test).followedBy next).first? [] = (next []).first? [] := by
  simp [first?_followedBy, few]

/-- A character is taken only if the pattern cannot go on in front of it. -/
theorem first?_few_followedBy_cons (test : Char → Bool) (next : List Char → Pattern Next)
    (char : Char) (rest : List Char) :
    ((few test).followedBy next).first? (char :: rest) =
      ((next []).first? (char :: rest)).or
        (if test char then ((few test).followedBy fun taken => next (char :: taken)).first? rest
        else none) := by
  rw [first?_followedBy, few, List.findSome?_cons]
  dsimp only
  cases (next []).first? (char :: rest) with
  | some way => rfl
  | none =>
      cases test char with
      | true => simp [first?_followedBy, List.findSome?_map, Function.comp_def, Prod.map]
      | false => rfl

theorem first?_perhaps_followedBy (pattern : Pattern (List Char))
    (next : List Char → Pattern Next) (text : List Char) :
    ((perhaps pattern).followedBy next).first? text =
      ((next []).first? text).or ((pattern.followedBy next).first? text) := by
  rw [first?_followedBy, perhaps, List.findSome?_cons, first?_followedBy]
  cases (next []).first? text <;> rfl

/-- Giving characters back is of no use if the pattern cannot go on at any of them. -/
theorem first?_many_followedBy {test : Char → Bool} {next : List Char → Pattern Next}
    (stops : ∀ taken char rest, test char = true → (next taken).first? (char :: rest) = none)
    (text : List Char) :
    ((many test).followedBy next).first? text =
      (next (text.takeWhile test)).first? (text.dropWhile test) := by
  induction text generalizing next with
  | nil => simp [first?_followedBy, many]
  | cons char rest induction =>
      rw [first?_followedBy, many, List.findSome?_append]
      cases passes : test char with
      | false => simp [passes]
      | true =>
          have more := @induction (fun taken => next (char :: taken))
            (fun taken => stops (char :: taken))
          rw [first?_followedBy] at more
          simp [List.findSome?_map, Function.comp_def, Prod.map, more, passes,
            stops [] char rest passes]

end Pattern

end ChatMarkup.Text
