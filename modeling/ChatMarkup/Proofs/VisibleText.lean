import Mathlib.Data.List.Basic
import ChatMarkup.Convert
import ChatMarkup.Proofs.Ink
import ChatMarkup.Proofs.StackWalk

/-!
The visible text of a page and the message made from it. The message shows all of the visible ink in
its order, and whatever else it holds is white space or a marker.
-/

namespace ChatMarkup

open Text

/-! ## What a page shows -/

def Rule.visibleContent (items : List (List Char)) (inner : List Char) : Rule → List Char
  | .drop => []
  | .fixed _ => []
  | .list _ => items.flatten
  | _ => inner

namespace Node

mutual

/-- The text of a node that a message has to show. -/
def visible (options : Options) : Node → List Char
  | .text content => shownText options content
  | .comment => []
  | .element name children =>
    match children with
    | [] => []
    | child :: rest =>
      (elementRule options name).visibleContent (visibleItems options (child :: rest))
        (visibleAll options (child :: rest))

def visibleAll (options : Options) : List Node → List Char
  | [] => []
  | node :: rest => node.visible options ++ visibleAll options rest

def visibleItems (options : Options) : List Node → List (List Char)
  | [] => []
  | node :: rest =>
    if node.isItem options then node.visible options :: visibleItems options rest
    else visibleItems options rest

end

end Node

/-! ## Markers -/

def isMarker (char : Char) : Bool :=
  ['*', '_', '~', '`', '^', '>', '-', '.'].contains char || char.isDigit

/-- A text without its white space and without the characters of markers. -/
def bare (text : List Char) : List Char := (ink text).filter (!isMarker ·)

theorem count_bare {char : Char} (inked : isBlank char = false) (noMarker : isMarker char = false)
    (text : List Char) : (bare text).count char = text.count char := by
  rw [bare, ink, List.count_filter (by rw [noMarker]; rfl), List.count_filter (by rw [inked]; rfl)]

def isMarking (text : List Char) : Bool := text.all fun char => isBlank char || isMarker char

def Rule.addsMarkers : Rule → Bool
  | .surround marker => isMarking marker.toList
  | .lead marker => isMarking marker.toList
  | .block opening closing spacing =>
    isMarking opening.toList && isMarking closing.toList && isMarking spacing.toList
  | .cell (some marker) => isMarking marker.toList
  | .fixed literal => isMarking literal.toList
  | _ => true

theorem Rule.addsMarkers_ofElement (name : String) : (ofElement name).addsMarkers = true := by
  have table : elements.all (fun entry => entry.2.addsMarkers) = true := by decide +kernel
  rw [ofElement]
  split
  · rename_i entry found
    exact List.all_eq_true.mp table entry (List.mem_of_find?_eq_some found)
  · rfl

/-! ## Showing a text -/

/-- `shown` holds the ink of `visible` in its order, and besides nothing but markers and white
space. -/
structure Shows (visible shown : List Char) : Prop where
  inOrder : (ink visible).Sublist (ink shown)
  noOther : bare visible = bare shown

namespace Shows

theorem refl (text : List Char) : Shows text text := ⟨List.Sublist.refl _, rfl⟩

theorem of_ink_eq {visible shown : List Char} (same : ink visible = ink shown) :
    Shows visible shown := by
  refine ⟨?_, ?_⟩
  · rw [same]
  · rw [bare, same, bare]

theorem trans {visible shown last : List Char} (first : Shows visible shown)
    (second : Shows shown last) : Shows visible last :=
  ⟨first.inOrder.trans second.inOrder, first.noOther.trans second.noOther⟩

theorem append {left right leftShown rightShown : List Char} (leftShows : Shows left leftShown)
    (rightShows : Shows right rightShown) : Shows (left ++ right) (leftShown ++ rightShown) := by
  refine ⟨?_, ?_⟩
  · rw [ink_append, ink_append]
    exact leftShows.inOrder.append rightShows.inOrder
  · have leftBare := leftShows.noOther
    have rightBare := rightShows.noOther
    simp only [bare, ink_append, List.filter_append] at leftBare rightBare ⊢
    rw [leftBare, rightBare]

theorem marking {text : List Char} (marks : isMarking text = true) : Shows [] text := by
  refine ⟨List.nil_sublist _, ?_⟩
  simp only [isMarking, List.all_eq_true, Bool.or_eq_true] at marks
  have empty : bare text = [] := by
    rw [bare, List.filter_eq_nil_iff]
    intro char member
    have inText := List.mem_filter.mp member
    rcases marks char inText.1 with blank | marker
    · simp [blank] at inText
    · simp [marker]
  rw [empty]
  rfl

theorem between {visible shown opening closing : List Char} (shows : Shows visible shown)
    (opens : isMarking opening = true) (closes : isMarking closing = true) :
    Shows visible (opening ++ shown ++ closing) := by
  have all := ((marking opens).append shows).append (marking closes)
  rwa [List.nil_append, List.append_nil] at all

end Shows

/-! ## Rules -/

namespace Rule

theorem shows_surrounded {marker : String} (marks : isMarking marker.toList = true)
    (inner : List Char) : Shows inner (surrounded marker inner) := by
  rw [surrounded]
  split
  · rename_i empty
    rw [List.isEmpty_iff.mp empty]
    exact Shows.refl []
  · exact (Shows.refl inner).between marks marks

theorem shows_quotedLine (line : List Char) : Shows line (quotedLine line) := by
  have marked : Shows line (['>'] ++ line ++ []) :=
    (Shows.refl line).between (by decide) (by decide)
  refine marked.trans (Shows.of_ink_eq ?_)
  rw [List.append_nil, ink_append, ← ink_trim line, quotedLine]
  split
  · rename_i blank
    rw [blank]
    rfl
  · rfl

theorem shows_quoted (inner : List Char) : Shows inner (quoted inner) := by
  rw [quoted]
  split
  · rename_i empty
    rw [List.isEmpty_iff.mp empty]
    exact Shows.refl []
  · have byLine (pieces : List (List Char)) :
        Shows pieces.flatten (pieces.map quotedLine).flatten := by
      induction pieces with
      | nil => exact Shows.refl []
      | cons piece rest induction => exact (shows_quotedLine piece).append induction
    have joined : ink inner = ink (lines inner).flatten := by
      rw [ink_flatten, flatMap_ink_lines]
    have unjoined : ink ((lines inner).map quotedLine).flatten =
        ink (unlines ((lines inner).map quotedLine)) := by
      rw [ink_flatten, ink_unlines]
    exact (Shows.of_ink_eq joined).trans ((byLine _).trans (Shows.of_ink_eq unjoined))

theorem ink_apply_paragraph (inner : List Char) : ink (apply inner .paragraph) = ink inner := by
  rw [← ink_collapseInner inner, ← ink_trim (collapseInner inner), apply]
  split
  · rename_i blank
    rw [blank]
  · rw [ink_append]
    exact List.append_nil _

theorem shows_block {opening closing spacing : String}
    (marks : (block opening closing spacing).addsMarkers = true) (inner : List Char) :
    Shows inner (apply inner (.block opening closing spacing)) := by
  simp only [addsMarkers, Bool.and_eq_true] at marks
  rw [apply]
  split
  · rename_i empty
    rw [List.isEmpty_iff.mp empty]
    exact Shows.refl []
  · have spaced := ((Shows.refl inner).between marks.1.1 marks.1.2).append (Shows.marking marks.2)
    rwa [List.append_nil] at spaced

theorem shows_fence (inner : List Char) : Shows inner (apply inner .fence) := by
  rw [apply]
  split
  · rename_i empty
    rw [List.isEmpty_iff.mp empty]
    exact Shows.refl []
  · have trimmed : ink inner = ink (trimWhere (· == '\n') inner) := by
      rw [ink_trimWhere]
      intro char newline
      rw [beq_iff_eq.mp newline]
      decide
    exact (Shows.of_ink_eq trimmed).between (by decide) (by decide)

theorem shows_cell {marker : Option String} (marks : (cell marker).addsMarkers = true)
    (inner : List Char) : Shows inner (apply inner (.cell marker)) := by
  cases marker with
  | none => exact (Shows.refl inner).between (by decide : isMarking [] = true) (by decide)
  | some marker =>
      exact (shows_surrounded marks inner).between (by decide : isMarking [] = true) (by decide)

/-- A rule that goes by the joined text of the children shows all of it. -/
theorem shows_apply {rule : Rule} (marks : rule.addsMarkers = true) {inner : List Char}
    (joins : rule.visibleContent [] inner = inner) : Shows inner (rule.apply inner) := by
  cases rule with
  | surround marker => exact shows_surrounded marks inner
  | lead marker =>
      have marked := (Shows.marking marks).append (Shows.refl inner)
      rwa [List.nil_append] at marked
  | block opening closing spacing => exact shows_block marks inner
  | paragraph => exact Shows.of_ink_eq (ink_apply_paragraph inner).symm
  | fence => exact shows_fence inner
  | quote => exact shows_quoted inner
  | list kind =>
      rw [← joins]
      exact Shows.refl []
  | table => exact (Shows.refl inner).between (by decide : isMarking ['\n'] = true) (by decide)
  | row => exact (Shows.refl inner).between (by decide : isMarking [] = true) (by decide)
  | cell marker => exact shows_cell marks inner
  | fixed literal =>
      rw [← joins]
      exact Shows.marking marks
  | drop =>
      rw [← joins]
      exact Shows.refl []
  | passThrough => exact Shows.refl inner

/-! ## Lists -/

theorem isMarking_bullet (kind : ListKind) (position : Nat) :
    isMarking (bullet kind position) = true := by
  cases kind with
  | unordered => exact (by decide : isMarking "- ".toList = true)
  | ordered =>
      rw [bullet, isMarking, List.all_append, Bool.and_eq_true]
      refine ⟨?_, by decide⟩
      rw [List.all_eq_true]
      intro char member
      have digit := Nat.isDigit_of_mem_toDigits (by decide) (by decide) member
      simp [isMarker, digit]

/-- The items that are left out are blank, so that nothing visible is lost with them. -/
theorem shows_survivors {visibleItems items : List (List Char)}
    (shows : List.Forall₂ Shows visibleItems items) (mark : Nat → List Char)
    (marks : ∀ position, isMarking (mark position) = true) :
    Shows visibleItems.flatten
      ((survivors items).mapIdx fun position item => mark position ++ item).flatten := by
  induction shows generalizing mark with
  | nil => exact Shows.refl []
  | @cons visible item visibleRest rest first _ induction =>
      have trimmed : Shows visible (trim item) :=
        first.trans (Shows.of_ink_eq (ink_trim item).symm)
      rw [survivors, List.map_cons, List.filter_cons]
      split
      · rw [List.mapIdx_cons]
        have marked := ((Shows.marking (marks 0)).append trimmed).append
          (induction (fun position => mark (position + 1)) fun position => marks (position + 1))
        rwa [List.nil_append] at marked
      · rename_i blank
        have empty : trim item = [] := by simpa using blank
        rw [empty] at trimmed
        exact trimmed.append (induction mark marks)

theorem shows_applyList (kind : ListKind) {visibleItems items : List (List Char)}
    (shows : List.Forall₂ Shows visibleItems items) :
    Shows visibleItems.flatten (applyList kind items) := by
  refine (shows_survivors shows (bullet kind) (isMarking_bullet kind)).trans (Shows.of_ink_eq ?_)
  rw [ink_flatten, applyList, ink_unlines]

theorem shows_applyContent {rule : Rule} (marks : rule.addsMarkers = true)
    {visibleItems items : List (List Char)} {visible inner : List Char}
    (byItem : List.Forall₂ Shows visibleItems items) (joined : Shows visible inner) :
    Shows (rule.visibleContent visibleItems visible) (rule.applyContent items inner) := by
  cases rule with
  | drop => exact Shows.refl []
  | fixed literal => exact Shows.marking marks
  | list kind => exact shows_applyList kind byItem
  | surround marker => exact joined.trans (shows_apply marks rfl)
  | lead marker => exact joined.trans (shows_apply marks rfl)
  | block opening closing spacing => exact joined.trans (shows_apply marks rfl)
  | paragraph => exact joined.trans (shows_apply marks rfl)
  | fence => exact joined.trans (shows_apply marks rfl)
  | quote => exact joined.trans (shows_apply marks rfl)
  | table => exact joined.trans (shows_apply marks rfl)
  | row => exact joined.trans (shows_apply marks rfl)
  | cell marker => exact joined.trans (shows_apply marks rfl)
  | passThrough => exact joined

end Rule

/-! ## Nodes -/

namespace Node

mutual

theorem shows_format (options : Options) : (node : Node) →
    Shows (node.visible options) (node.format options)
  | .text content => Shows.refl _
  | .comment => Shows.refl _
  | .element name [] => by
      have marks := Rule.addsMarkers_ofElement (elementName options name)
      rw [Node.visible, Node.format, elementRule]
      cases rule : Rule.ofElement (elementName options name) with
      | fixed literal =>
          rw [rule] at marks
          exact Shows.marking marks
      | _ => exact Shows.refl []
  | .element name (child :: rest) =>
      Rule.shows_applyContent (Rule.addsMarkers_ofElement _)
        (shows_formatItems options (child :: rest)) (shows_formatAll options (child :: rest))

theorem shows_formatAll (options : Options) : (nodes : List Node) →
    Shows (visibleAll options nodes) (formatAll options nodes)
  | [] => Shows.refl []
  | node :: rest => (shows_format options node).append (shows_formatAll options rest)

theorem shows_formatItems (options : Options) : (nodes : List Node) →
    List.Forall₂ Shows (visibleItems options nodes) (formatItems options nodes)
  | [] => .nil
  | node :: rest => by
      rw [visibleItems, formatItems]
      split
      · exact .cons (shows_format options node) (shows_formatItems options rest)
      · exact shows_formatItems options rest

end

theorem flatMap_walk (options : Options) (nodes : List Node) :
    nodes.flatMap (Walk.format options) = formatAll options nodes := by
  induction nodes with
  | nil => rfl
  | cons node rest induction =>
      rw [List.flatMap_cons, Walk.format_eq, induction, formatAll]

end Node

theorem shows_message (options : Options) (nodes : List Node) :
    Shows (Node.visibleAll options nodes) (message options nodes) := by
  rw [message, Node.flatMap_walk]
  exact (Node.shows_formatAll options nodes).trans (Shows.of_ink_eq (ink_tidy _).symm)

/-- The message shows the visible ink of a page in its order, and without markers it shows nothing
else. -/
theorem visible_text_kept (options : Options) (nodes : List Node) :
    (ink (Node.visibleAll options nodes)).Sublist (ink (message options nodes)) ∧
      bare (Node.visibleAll options nodes) = bare (message options nodes) :=
  ⟨(shows_message options nodes).inOrder, (shows_message options nodes).noOther⟩

end ChatMarkup
