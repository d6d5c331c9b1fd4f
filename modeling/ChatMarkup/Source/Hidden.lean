import ChatMarkup.Options
import ChatMarkup.Text.Blank
import ChatMarkup.Text.Word

/-!
Script and style elements, removed from the source. What stands between their tags is no markup and
must not be read as such. Only an element that has an end tag is removed here.
-/

namespace ChatMarkup.Source

open Text

/-! ## Matching a name -/

/-- The character stands for a lower-case letter of a name. Where case does not matter, so do the
letter's capital and, for an s, the long s. -/
def matchesLetter (anyCase : Bool) (letter char : Char) : Bool :=
  char == letter || (anyCase && (char.toLower == letter || (letter == 's' && char == 'ſ')))

def afterName? (anyCase : Bool) : List Char → List Char → Option (List Char)
  | [], source => some source
  | letter :: name, char :: source =>
    if matchesLetter anyCase letter char then afterName? anyCase name source else none
  | _ :: _, [] => none

/-! ## Tags of hidden elements -/

def hiddenNames : List (List Char) := ["script".toList, "style".toList]

/-- What follows a start tag at the start of `source`. The name ends where a word ends, and the tag
ends with the first closing bracket. -/
def afterStartTag? (anyCase : Bool) (name source : List Char) : Option (List Char) :=
  match afterName? anyCase ('<' :: name) source with
  | none => none
  | some rest =>
    if rest.head?.any isWord then none
    else
      match rest.dropWhile (· != '>') with
      | [] => none
      | _ :: body => some body

def afterEndTag? (anyCase : Bool) (name source : List Char) : Option (List Char) :=
  match afterName? anyCase ('<' :: '/' :: name) source with
  | none => none
  | some rest =>
    match trimStart rest with
    | '>' :: after => some after
    | _ => none

def afterBody? (anyCase : Bool) (name : List Char) : List Char → Option (List Char)
  | [] => none
  | char :: rest =>
    match afterEndTag? anyCase name (char :: rest) with
    | some after => some after
    | none => afterBody? anyCase name rest

def afterElement? (anyCase : Bool) (source name : List Char) : Option (List Char) :=
  match afterStartTag? anyCase name source with
  | none => none
  | some body => afterBody? anyCase name body

def afterHidden? (anyCase : Bool) (source : List Char) : Option (List Char) :=
  hiddenNames.findSome? (afterElement? anyCase source)

/-! ## Each of them leaves less than it was given -/

theorem length_afterName?_le {anyCase : Bool} {name source rest : List Char}
    (found : afterName? anyCase name source = some rest) :
    rest.length + name.length ≤ source.length := by
  induction name generalizing source with
  | nil =>
      simp only [afterName?, Option.some.injEq] at found
      simp [found]
  | cons letter name induction =>
      cases source with
      | nil => simp [afterName?] at found
      | cons char source =>
          simp only [afterName?] at found
          split at found
          · have := induction found
            simp only [List.length_cons]
            omega
          · simp at found

theorem length_afterStartTag?_lt {anyCase : Bool} {name source body : List Char}
    (found : afterStartTag? anyCase name source = some body) : body.length < source.length := by
  simp only [afterStartTag?] at found
  split at found
  · simp at found
  · rename_i rest named
    have shorter := length_afterName?_le named
    split at found
    · simp at found
    · have dropped := (List.dropWhile_sublist (· != '>') (l := rest)).length_le
      split at found
      · simp at found
      · rename_i bracket tail tagEnd
        rw [tagEnd] at dropped
        simp only [Option.some.injEq] at found
        subst found
        simp only [List.length_cons] at shorter dropped
        omega

theorem length_afterEndTag?_lt {anyCase : Bool} {name source after : List Char}
    (found : afterEndTag? anyCase name source = some after) : after.length < source.length := by
  simp only [afterEndTag?] at found
  split at found
  · simp at found
  · rename_i rest named
    have shorter := length_afterName?_le named
    have dropped := (List.dropWhile_sublist isBlank (l := rest)).length_le
    split at found
    · rename_i tail trimmed
      simp only [trimStart] at trimmed
      rw [trimmed] at dropped
      simp only [Option.some.injEq] at found
      subst found
      simp only [List.length_cons] at shorter dropped
      omega
    · simp at found

theorem length_afterBody?_lt {anyCase : Bool} {name body after : List Char}
    (found : afterBody? anyCase name body = some after) : after.length < body.length := by
  induction body with
  | nil => simp [afterBody?] at found
  | cons char rest induction =>
      simp only [afterBody?] at found
      split at found
      · rename_i ended
        rcases Option.some.inj found with rfl
        exact length_afterEndTag?_lt ended
      · exact Nat.lt_succ_of_lt (induction found)

theorem length_afterHidden?_lt {anyCase : Bool} {source after : List Char}
    (found : afterHidden? anyCase source = some after) : after.length < source.length := by
  rcases List.exists_of_findSome?_eq_some found with ⟨name, -, found⟩
  simp only [afterElement?] at found
  split at found
  · simp at found
  · rename_i body started
    exact Nat.lt_trans (length_afterBody?_lt found) (length_afterStartTag?_lt started)

/-! ## Removal -/

set_option linter.unusedVariables false in
/-- Removes every hidden element, from left to right. What removal joins is not looked at again. -/
def removeHiddenWhere (anyCase : Bool) (source : List Char) : List Char :=
  match source with
  | [] => []
  | char :: rest =>
    match found : afterHidden? anyCase (char :: rest) with
    | some after => removeHiddenWhere anyCase after
    | none => char :: removeHiddenWhere anyCase rest
termination_by source.length
decreasing_by
  · exact length_afterHidden?_lt found
  · simp

def removeHidden (options : Options) (source : List Char) : List Char :=
  removeHiddenWhere options.lowercaseTags source

example : removeHidden {} "a<script>b</script c></script\n>d<scripts></script>".toList =
    "ad<scripts></script>".toList := by
  decide +kernel

end ChatMarkup.Source
