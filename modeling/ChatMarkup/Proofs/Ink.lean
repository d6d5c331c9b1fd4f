import ChatMarkup.Text.Lines

/-!
The ink of a text: its characters that are not blank. The passes over line breaks and edges only
move white space, so none of them changes the ink.
-/

namespace ChatMarkup.Text

def ink (text : List Char) : List Char := text.filter (!isBlank ·)

@[simp] theorem ink_nil : ink [] = [] := rfl

@[simp] theorem ink_append (left right : List Char) : ink (left ++ right) = ink left ++ ink right :=
  List.filter_append left right

theorem ink_cons_of_blank {char : Char} (blank : isBlank char = true) (rest : List Char) :
    ink (char :: rest) = ink rest := by
  simp [ink, blank]

theorem ink_cons (char : Char) (rest : List Char) :
    ink (char :: rest) = ink [char] ++ ink rest :=
  ink_append [char] rest

theorem ink_eq_nil_iff {text : List Char} :
    ink text = [] ↔ ∀ char ∈ text, isBlank char = true := by
  simp [ink]

theorem ink_flatten (pieces : List (List Char)) : ink pieces.flatten = pieces.flatMap ink := by
  rw [ink, List.filter_flatten, List.flatMap_def]
  rfl

/-! ## Edges -/

section Edges

variable {drop : Char → Bool} (dropsBlank : ∀ char, drop char = true → isBlank char = true)

include dropsBlank

theorem ink_trimEndWhere (text : List Char) : ink (trimEndWhere drop text) = ink text := by
  induction text with
  | nil => rfl
  | cons char rest induction =>
      rw [ink_cons, ← induction, trimEndWhere]
      split
      · rename_i empty
        rw [empty]
        split
        · rename_i dropped
          rw [ink_cons_of_blank (dropsBlank char dropped)]
          rfl
        · simp
      · exact ink_cons _ _

theorem ink_dropWhile (text : List Char) : ink (text.dropWhile drop) = ink text := by
  induction text with
  | nil => rfl
  | cons char rest induction =>
      rw [List.dropWhile_cons]
      split
      · rename_i dropped
        rw [induction, ink_cons_of_blank (dropsBlank char dropped)]
      · rfl

theorem ink_trimWhere (text : List Char) : ink (trimWhere drop text) = ink text := by
  rw [trimWhere, ink_trimEndWhere dropsBlank, ink_dropWhile dropsBlank]

end Edges

theorem ink_trim (text : List Char) : ink (trim text) = ink text :=
  ink_trimWhere (fun _ blank => blank) text

theorem isBlank_of_isHorizontal (char : Char) (horizontal : isHorizontal char = true) :
    isBlank char = true := by
  simp only [isHorizontal, Bool.or_eq_true, beq_iff_eq] at horizontal
  rcases horizontal with (rfl | rfl) | rfl <;> decide

theorem isBlank_of_isEdge (char : Char) (edge : isEdge char = true) : isBlank char = true := by
  rcases Bool.or_eq_true _ _ |>.mp edge with newline | horizontal
  · rw [beq_iff_eq.mp newline]
    decide
  · exact isBlank_of_isHorizontal char horizontal

/-! ## Lines -/

theorem ink_joinWithChar {separator : Char} (blank : isBlank separator = true)
    (pieces : List (List Char)) : ink (joinWithChar separator pieces) = pieces.flatMap ink := by
  induction pieces with
  | nil => rfl
  | cons piece rest induction =>
      cases rest with
      | nil => simp [joinWithChar]
      | cons next others =>
          rw [joinWithChar_cons separator piece (List.cons_ne_nil _ _), ink_append,
            ink_cons_of_blank blank, induction]
          rfl

theorem ink_unlines (pieces : List (List Char)) : ink (unlines pieces) = pieces.flatMap ink :=
  ink_joinWithChar (by decide) pieces

theorem flatMap_ink_lines (text : List Char) : (lines text).flatMap ink = ink text := by
  rw [← ink_unlines]
  exact congrArg ink (joinWithChar_splitAtChar '\n' text)

/-- A change to every line that keeps the ink of each keeps the ink of all. -/
theorem ink_unlines_map {change : List Char → List Char}
    (keeps : ∀ line, ink (change line) = ink line) (text : List Char) :
    ink (unlines ((lines text).map change)) = ink text := by
  rw [ink_unlines, List.flatMap_map]
  simp only [keeps]
  exact flatMap_ink_lines text

theorem ink_trimLineEnds (text : List Char) : ink (trimLineEnds text) = ink text :=
  ink_unlines_map (ink_trimEndWhere isBlank_of_isHorizontal) text

theorem ink_capBlankLinesAfter (seen : Nat) (text : List Char) :
    ink (capBlankLinesAfter seen text) = ink text := by
  induction text generalizing seen with
  | nil => rfl
  | cons char rest induction =>
      rw [capBlankLinesAfter]
      split
      · rename_i newline
        subst newline
        split
        · rw [ink_cons, induction, ← ink_cons]
        · rw [induction, ink_cons_of_blank (by decide)]
      · rw [ink_cons, induction, ← ink_cons]

theorem ink_collapseBreaks (text : List Char) : ink (collapseBreaks text) = ink text := by
  induction text with
  | nil => rfl
  | cons char rest induction =>
      rw [collapseBreaks]
      split
      · rename_i dropped
        rw [induction, ink_cons_of_blank (Bool.and_eq_true _ _ |>.mp dropped).1]
      · rw [ink_cons, induction, ← ink_cons]

theorem ink_collapseInner (text : List Char) : ink (collapseInner text) = ink text := by
  rw [collapseInner, capBlankLines, ink_capBlankLinesAfter, ink_collapseBreaks]

/-- Tidying a message leaves all of its ink where it is. -/
theorem ink_tidy (text : List Char) : ink (tidy text) = ink text := by
  rw [tidy, ink_trimWhere isBlank_of_isEdge, capBlankLines, ink_capBlankLinesAfter,
    ink_trimLineEnds]

end ChatMarkup.Text
