import Mathlib.Data.List.Infix
import ChatMarkup.Proofs.ReferenceScan

/-!
Decoding position by position. A reference of a text is seen without regard to what stands before
it; no two of them overlap, and all of them are replaced at once while everything else is copied.
-/

namespace ChatMarkup.Text

namespace Reference

/-! ## Occurrences -/

/-- A reference in a text: where its ampersand stands, its body and the character it stands for. -/
structure Occurrence where
  start : Nat
  body : List Char
  char : Char
  deriving DecidableEq, Repr

namespace Occurrence

def written (occurrence : Occurrence) : List Char := '&' :: (occurrence.body ++ [';'])

def stop (occurrence : Occurrence) : Nat := occurrence.start + occurrence.written.length

structure IsIn (occurrence : Occurrence) (text : List Char) : Prop where
  found : occurrence.written <+: text.drop occurrence.start
  unended : ';' ∉ occurrence.body
  sized : 0 < byteSize occurrence.body ∧ byteSize occurrence.body ≤ maxBodySize
  read : body? occurrence.body = some occurrence.char

theorem isIn_iff {occurrence : Occurrence} {text : List Char} :
    occurrence.IsIn text ↔
      occurrence.written <+: text.drop occurrence.start ∧
        sizedBody? occurrence.body = some occurrence.char := by
  constructor
  · intro isIn
    exact ⟨isIn.found, sizedBody?_eq_some_iff.mpr ⟨isIn.sized, isIn.read⟩⟩
  · rintro ⟨found, decoded⟩
    rcases sizedBody?_eq_some_iff.mp decoded with ⟨sized, read⟩
    exact ⟨found, notMem_of_sizedBody? (by decide) decoded, sized, read⟩

namespace IsIn

variable {occurrence other : Occurrence} {text : List Char}

theorem getElem? (isIn : occurrence.IsIn text) {place : Nat}
    (inside : place < occurrence.written.length) :
    text[occurrence.start + place]? = some occurrence.written[place] := by
  rw [← List.getElem?_drop]
  exact List.prefix_iff_getElem?.mp isIn.found place inside

theorem start_lt (isIn : occurrence.IsIn text) : occurrence.start < text.length := by
  have first := isIn.getElem? (Nat.succ_pos _)
  exact (List.getElem?_eq_some_iff.mp first).1

/-- No reference begins inside of another one. -/
theorem stop_le_start (isIn : occurrence.IsIn text) (otherIn : other.IsIn text)
    (before : occurrence.start < other.start) : occurrence.stop ≤ other.start := by
  by_contra overlap
  rw [Nat.not_le, stop] at overlap
  rcases Nat.exists_eq_add_of_lt before with ⟨place, start⟩
  have inside : place + 1 < occurrence.written.length := by omega
  have ampersand := otherIn.getElem? (Nat.succ_pos _)
  rw [Nat.add_zero, start, Nat.add_assoc, isIn.getElem? inside] at ampersand
  have member : '&' ∈ occurrence.body ++ [';'] :=
    List.mem_of_getElem (Option.some.inj ampersand)
  rw [List.mem_append, List.mem_singleton] at member
  rcases member with inBody | semicolon
  · exact notMem_of_sizedBody? (by decide) (isIn_iff.mp isIn).2 inBody
  · cases semicolon

theorem eq_of_start_eq (isIn : occurrence.IsIn text) (otherIn : other.IsIn text)
    (same : occurrence.start = other.start) : occurrence = other := by
  rcases isIn.found with ⟨rest, whole⟩
  rcases otherIn.found with ⟨otherRest, otherWhole⟩
  have bodies : occurrence.body ++ ';' :: rest = other.body ++ ';' :: otherRest := by
    have joined := whole.trans ((congrArg text.drop same).trans otherWhole.symm)
    simpa [written] using joined
  have sameBody : other.body = occurrence.body := by
    rcases eq_or_exists_of_append_separator isIn.unended bodies with ⟨equal, -⟩ | ⟨_, longer, -⟩
    · exact equal
    · exact absurd (longer ▸ by simp) otherIn.unended
  have sameChar : occurrence.char = other.char := by
    have read := isIn.read
    rw [← sameBody, otherIn.read] at read
    exact (Option.some.inj read).symm
  cases occurrence
  cases other
  cases same
  cases sameBody
  cases sameChar
  rfl

theorem apart (isIn : occurrence.IsIn text) (otherIn : other.IsIn text) :
    occurrence = other ∨ occurrence.stop ≤ other.start ∨ other.stop ≤ occurrence.start := by
  rcases Nat.lt_trichotomy occurrence.start other.start with before | same | after
  · exact .inr (.inl (isIn.stop_le_start otherIn before))
  · exact .inl (isIn.eq_of_start_eq otherIn same)
  · exact .inr (.inr (otherIn.stop_le_start isIn after))

end IsIn

end Occurrence

/-! ## Finding the occurrences -/

def front? : List Char → Option (List Char × Char)
  | '&' :: after =>
    let (body, semicolon) := after.span (· != ';')
    if semicolon.isEmpty then none else (sizedBody? body).map (body, ·)
  | _ => none

theorem front?_eq_some_iff {text body : List Char} {char : Char} :
    front? text = some (body, char) ↔
      '&' :: (body ++ [';']) <+: text ∧ sizedBody? body = some char := by
  constructor
  · intro front
    rw [front?.eq_def] at front
    split at front
    · rename_i after
      by_cases ended : ';' ∈ after
      · rcases List.eq_append_cons_of_mem ended with ⟨shown, rest, rfl, free⟩
        rw [span_of_free free] at front
        rcases Option.map_eq_some_iff.mp front with ⟨_, decoded, same⟩
        cases same
        exact ⟨⟨rest, by simp⟩, decoded⟩
      · have none : after.dropWhile (· != ';') = [] := by
          rw [List.dropWhile_eq_nil_iff]
          intro char member
          rw [bne_iff_ne]
          rintro rfl
          exact ended member
        rw [List.span_eq_takeWhile_dropWhile, none] at front
        cases front
    · cases front
  · rintro ⟨⟨rest, rfl⟩, decoded⟩
    have unended : ';' ∉ body := notMem_of_sizedBody? (by decide) decoded
    rw [List.cons_append, List.append_assoc, List.singleton_append, front?, span_of_free unended]
    exact Option.map_eq_some_iff.mpr ⟨char, decoded, rfl⟩

def occurrences (text : List Char) : List Occurrence :=
  (List.range text.length).filterMap fun start =>
    (front? (text.drop start)).map fun (body, char) => ⟨start, body, char⟩

theorem mem_occurrences_iff {occurrence : Occurrence} {text : List Char} :
    occurrence ∈ occurrences text ↔ occurrence.IsIn text := by
  rw [occurrences, List.mem_filterMap]
  constructor
  · rintro ⟨start, -, found⟩
    rcases Option.map_eq_some_iff.mp found with ⟨⟨body, char⟩, front, rfl⟩
    exact Occurrence.isIn_iff.mpr (front?_eq_some_iff.mp front)
  · intro isIn
    have front : front? (text.drop occurrence.start) = some (occurrence.body, occurrence.char) :=
      front?_eq_some_iff.mpr (Occurrence.isIn_iff.mp isIn)
    exact ⟨occurrence.start, List.mem_range.mpr isIn.start_lt, by rw [front]; rfl⟩

/-! ## Replacing them all at once -/

/-- What is left of the character at a position: a reference leaves its character where it begins,
and every other character is copied. -/
def shownAt (text : List Char) (position : Nat) : List Char :=
  let covers (occurrence : Occurrence) : Bool :=
    occurrence.start ≤ position && position < occurrence.stop
  match (occurrences text).find? covers with
  | some occurrence => if occurrence.start = position then [occurrence.char] else []
  | none => text[position]?.toList

theorem shownAt_covered {occurrence : Occurrence} {text : List Char} {position : Nat}
    (isIn : occurrence.IsIn text) (started : occurrence.start ≤ position)
    (unstopped : position < occurrence.stop) :
    shownAt text position =
      if occurrence.start = position then [occurrence.char] else [] := by
  rw [shownAt]
  split
  · rename_i other first
    have otherIn := mem_occurrences_iff.mp (List.mem_of_find?_eq_some first)
    have covers := List.find?_some first
    rw [Bool.and_eq_true, decide_eq_true_eq, decide_eq_true_eq] at covers
    have same : occurrence = other := by
      rcases isIn.apart otherIn with equal | before | after
      · exact equal
      · omega
      · omega
    rw [same]
  · rename_i uncovered
    refine absurd ?_ (List.find?_eq_none.mp uncovered occurrence (mem_occurrences_iff.mpr isIn))
    rw [Bool.and_eq_true, decide_eq_true_eq, decide_eq_true_eq]
    exact ⟨started, unstopped⟩

theorem shownAt_uncovered {text : List Char} {position : Nat}
    (uncovered : ∀ occurrence : Occurrence, occurrence.IsIn text →
      occurrence.start ≤ position → occurrence.stop ≤ position) :
    shownAt text position = text[position]?.toList := by
  rw [shownAt]
  split
  · rename_i occurrence first
    have isIn := mem_occurrences_iff.mp (List.mem_of_find?_eq_some first)
    have covers := List.find?_some first
    rw [Bool.and_eq_true, decide_eq_true_eq, decide_eq_true_eq] at covers
    exact absurd (uncovered occurrence isIn covers.1) (Nat.not_le.mpr covers.2)
  · rfl

/-- No reference of the whole text lies on both sides of the position. -/
def IsBoundary (whole : List Char) (position : Nat) : Prop :=
  ∀ occurrence : Occurrence, occurrence.IsIn whole →
    occurrence.start < position → occurrence.stop ≤ position

theorem flatMap_shownAt_reference {occurrence : Occurrence} {text : List Char}
    (isIn : occurrence.IsIn text) :
    (List.range' occurrence.start occurrence.written.length).flatMap (shownAt text) =
      [occurrence.char] := by
  have first := shownAt_covered isIn (Nat.le_refl _) (Nat.lt_add_of_pos_right (Nat.succ_pos _))
  have others : ∀ position ∈ List.range' (occurrence.start + 1) (occurrence.body ++ [';']).length,
      shownAt text position = [] := by
    intro position member
    rw [List.mem_range'_1] at member
    rw [shownAt_covered isIn (by omega), if_neg (by omega)]
    rw [Occurrence.stop, Occurrence.written, List.length_cons]
    omega
  rw [Occurrence.written, List.length_cons, List.range'_succ, List.flatMap_cons, first, if_pos rfl,
    List.flatMap_eq_nil_iff.mpr others]
  rfl

theorem IsBoundary.append_char {before rest : List Char} {char : Char}
    (boundary : IsBoundary (before ++ char :: rest) before.length)
    (noReference : ¬StartsReference (char :: rest)) :
    IsBoundary (before ++ char :: rest) (before ++ [char]).length ∧
      shownAt (before ++ char :: rest) before.length = [char] := by
  have uncovered : ∀ occurrence : Occurrence, occurrence.IsIn (before ++ char :: rest) →
      occurrence.start ≤ before.length → occurrence.stop ≤ before.length := by
    intro occurrence isIn started
    rcases Nat.lt_or_eq_of_le started with earlier | here
    · exact boundary occurrence isIn earlier
    · rcases Occurrence.isIn_iff.mp isIn with ⟨⟨after, found⟩, decoded⟩
      rw [here, List.drop_left] at found
      exact absurd ⟨_, _, after, by simp [← found, Occurrence.written], decoded⟩ noReference
  constructor
  · intro occurrence isIn started
    rw [List.length_append, List.length_singleton] at started ⊢
    exact Nat.le_succ_of_le (uncovered occurrence isIn (Nat.le_of_lt_succ started))
  · rw [shownAt_uncovered uncovered, List.getElem?_append_right (Nat.le_refl _), Nat.sub_self]
    rfl

theorem IsBoundary.append_written {before rest : List Char} {occurrence : Occurrence}
    (boundary : IsBoundary (before ++ (occurrence.written ++ rest)) before.length)
    (isIn : occurrence.IsIn (before ++ (occurrence.written ++ rest)))
    (start : occurrence.start = before.length) :
    IsBoundary (before ++ (occurrence.written ++ rest)) (before ++ occurrence.written).length := by
  have stop : (before ++ occurrence.written).length = occurrence.stop := by
    rw [List.length_append, Occurrence.stop, start]
  intro other otherIn started
  rw [stop] at started ⊢
  rcases Nat.lt_trichotomy other.start occurrence.start with earlier | same | later
  · rw [← stop, List.length_append]
    exact Nat.le_trans (boundary other otherIn (start ▸ earlier)) (Nat.le_add_right _ _)
  · rw [otherIn.eq_of_start_eq isIn same]
  · exact absurd (isIn.stop_le_start otherIn later) (Nat.not_le.mpr started)

theorem flatMap_shownAt_range' (text whole before : List Char) (split : whole = before ++ text)
    (boundary : IsBoundary whole before.length) :
    decodeReferences text =
      (List.range' before.length text.length).flatMap (shownAt whole) := by
  -- The induction takes `text` from its front, and what it takes goes to the end of `before`.
  refine decodeReferences_induction (motive := fun text result => ∀ before,
    whole = before ++ text → IsBoundary whole before.length →
      result = (List.range' before.length text.length).flatMap (shownAt whole)) ?_ ?_ ?_ text
    before split boundary
  · intro before split boundary
    rfl
  · intro char rest noReference induction before split boundary
    subst split
    rcases boundary.append_char noReference with ⟨next, shown⟩
    rw [List.length_cons, List.range'_succ, List.flatMap_cons, shown,
      induction (before ++ [char]) (by simp) next, List.length_append]
    rfl
  · intro body char rest decoded induction before split boundary
    let occurrence : Occurrence := ⟨before.length, body, char⟩
    have written : '&' :: (body ++ ';' :: rest) = occurrence.written ++ rest := by
      simp [occurrence, Occurrence.written]
    rw [written] at split ⊢
    subst split
    have isIn : occurrence.IsIn (before ++ (occurrence.written ++ rest)) := by
      refine Occurrence.isIn_iff.mpr ⟨?_, decoded⟩
      rw [List.drop_left]
      exact List.prefix_append _ _
    have next := boundary.append_written isIn rfl
    rw [List.length_append, ← List.range'_append_1, List.flatMap_append,
      induction (before ++ occurrence.written) (by simp) next, List.length_append]
    exact congrArg (· ++ _) (flatMap_shownAt_reference isIn).symm

theorem decodeReferences_eq_flatMap (text : List Char) :
    decodeReferences text = (List.range text.length).flatMap (shownAt text) := by
  rw [List.range_eq_range']
  exact flatMap_shownAt_range' text text [] rfl fun _ _ before => absurd before (Nat.not_lt_zero _)

end Reference

/-- Decoding is the replacement of all references at once, and the scan that finds them one after
the other cuts through no character. -/
theorem decodeReferences_exact (text : List Char) :
    Reference.scan? text = some (decodeReferences text) ∧
    decodeReferences text = (List.range text.length).flatMap (Reference.shownAt text) ∧
    (∀ occurrence : Reference.Occurrence,
      occurrence ∈ Reference.occurrences text ↔ occurrence.IsIn text) ∧
    (∀ first second : Reference.Occurrence, first.IsIn text → second.IsIn text →
      first = second ∨ first.stop ≤ second.start ∨ second.stop ≤ first.start) ∧
    (∀ after, decodeReferences (text ++ '&' :: after) =
      decodeReferences text ++ decodeReferences ('&' :: after)) ∧
    (∀ after, decodeReferences (text ++ ';' :: after) =
      decodeReferences (text ++ [';']) ++ decodeReferences after) :=
  ⟨Reference.scan?_eq text, Reference.decodeReferences_eq_flatMap text,
    fun _ => Reference.mem_occurrences_iff, fun _ _ firstIn secondIn => firstIn.apart secondIn,
    decodeReferences_append_ampersand text, decodeReferences_append_semicolon text⟩

theorem decodeReferences_exact_nested :
    let text := "é&&amp;lt;&#x41;".toList
    let named : Reference.Occurrence := ⟨2, "amp".toList, '&'⟩
    let numbered : Reference.Occurrence := ⟨10, "#x41".toList, 'A'⟩
    Reference.scan? text = some "é&&lt;A".toList ∧
    named.IsIn text ∧ numbered.IsIn text ∧
    (named = numbered ∨ named.stop ≤ numbered.start ∨ numbered.stop ≤ named.start) := by
  intro text named numbered
  rcases decodeReferences_exact text with ⟨scanned, -, found, apart, -⟩
  have namedIn : named.IsIn text := (found named).mp (by decide +kernel)
  have numberedIn : numbered.IsIn text := (found numbered).mp (by decide +kernel)
  have decoded : decodeReferences text = "é&&lt;A".toList := by decide +kernel
  exact ⟨scanned.trans (congrArg some decoded), namedIn, numberedIn,
    apart named numbered namedIn numberedIn⟩

end ChatMarkup.Text
