import ChatMarkup.Proofs.OmittedEndTags
import ChatMarkup.Proofs.TidyMessages

/-!
Inline elements inside of each other. Each of them puts its marker on either side of what it holds,
so that the markers of the message are nested as the tags of the page are. Where there is no text
there are no markers.
-/

namespace ChatMarkup

open Text

/-! ## Inline elements -/

inductive InlineTag where
  | strong | b | mark
  | em | i | u | ins
  | s | strike | del
  | code | kbd | samp | var | tt
  deriving DecidableEq, Repr

namespace InlineTag

def name : InlineTag → String
  | strong => "strong"
  | b => "b"
  | mark => "mark"
  | em => "em"
  | i => "i"
  | u => "u"
  | ins => "ins"
  | s => "s"
  | strike => "strike"
  | del => "del"
  | code => "code"
  | kbd => "kbd"
  | samp => "samp"
  | var => "var"
  | tt => "tt"

def marker : InlineTag → String
  | strong | b | mark => "*"
  | em | i | u | ins => "_"
  | s | strike | del => "~"
  | code | kbd | samp | var | tt => "`"

theorem plainName (tag : InlineTag) : PlainName tag.name.toList := by
  cases tag <;> exact ⟨by decide, by decide⟩

theorem holds_name (tag : InlineTag) : Markup.contentless.contains tag.name = false := by
  cases tag <;> decide

theorem closesNothing_name (tag : InlineTag) : ClosesNothing tag.name := by
  cases tag <;> exact fun _ => rfl

theorem elementRule_name (options : Options) (tag : InlineTag) :
    elementRule options tag.name = .surround tag.marker := by
  refine (elementRule_of_lower options ?_).trans ?_
  · cases tag <;> decide
  · cases tag <;> decide

/-- A marker is one character of ink. -/
theorem exists_marker_eq (tag : InlineTag) :
    ∃ char, tag.marker.toList = [char] ∧ isEdge char = false := by
  cases tag <;> exact ⟨_, rfl, by decide⟩

/-! ## Elements inside of each other -/

def startTags (tags : List InlineTag) : List Char := tags.flatMap fun tag => Node.startTag tag.name

def endTags (tags : List InlineTag) : List Char := tags.flatMap fun tag => Node.endTag tag.name

def markers (tags : List InlineTag) : List Char := tags.flatMap fun tag => tag.marker.toList

variable (text : List Char)

def nest : List InlineTag → List Node
  | [] => textNodes text
  | tag :: rest => [.element tag.name (nest rest)]

def marked (tags : List InlineTag) : List Char :=
  if text = [] then [] else markers tags ++ text ++ markers tags.reverse

theorem writeAll_nest_cons (tag : InlineTag) (rest : List InlineTag) :
    Node.writeAll (nest text (tag :: rest)) =
      Node.startTag tag.name ++ (Node.writeAll (nest text rest) ++ Node.endTag tag.name) := by
  rw [nest, Node.writeAll, Node.writeAll, List.append_nil, write_holding tag.holds_name]

theorem writeAll_nest (tags : List InlineTag) :
    Node.writeAll (nest text tags) = startTags tags ++ text ++ endTags tags.reverse := by
  induction tags with
  | nil => exact (writeAll_textNodes text).trans (List.append_nil text).symm
  | cons tag rest induction =>
      rw [writeAll_nest_cons, induction]
      simp [startTags, endTags]

theorem marked_cons (tag : InlineTag) (rest : List InlineTag) :
    marked text (tag :: rest) = Rule.surrounded tag.marker (marked text rest) := by
  by_cases empty : text = []
  · rw [marked, marked, if_pos empty, if_pos empty]
    rfl
  · have shown : (markers rest ++ text ++ markers rest.reverse).isEmpty = false := by
      simp [empty]
    rw [marked, marked, if_neg empty, if_neg empty, Rule.surrounded, shown]
    simp [markers]

variable {text}

theorem areWellFormed_nest (free : '<' ∉ text) (tags : List InlineTag) :
    Node.areWellFormed (nest text tags) = true := by
  induction tags with
  | nil => exact areWellFormed_textNodes free
  | cons tag rest induction =>
      exact areWellFormed_singleton (isWellFormed_element tag.plainName tag.holds_name
        (tag.closesNothing_name.any_misnested _) induction)

theorem formatAll_nest (options : Options) (free : '&' ∉ text) (tags : List InlineTag) :
    Node.formatAll options (nest text tags) = marked text tags := by
  induction tags with
  | nil =>
      rw [nest, formatAll_textNodes, shownText_of_free options free, marked]
      split
      · assumption
      · exact (List.append_nil text).symm
  | cons tag rest induction =>
      rw [nest, Node.formatAll, Node.formatAll, List.append_nil,
        format_element options (tag.elementRule_name options) (fun _ _ => rfl) rfl, induction,
        marked_cons]
      rfl

/-! ## The message -/

theorem break_notMem_marked (noBreak : '\n' ∉ text) (tags : List InlineTag) :
    '\n' ∉ marked text tags := by
  have noMarker (tags : List InlineTag) : '\n' ∉ markers tags := by
    intro member
    rcases List.mem_flatMap.mp member with ⟨tag, -, inMarker⟩
    rcases tag.exists_marker_eq with ⟨char, single, inked⟩
    rw [single, List.mem_singleton] at inMarker
    rw [← inMarker] at inked
    exact absurd inked (by decide)
  rw [marked]
  split
  · exact List.not_mem_nil
  · simp [noMarker, noBreak]

/-- Markers at both ends keep the white space between them. -/
theorem isTidy_marked (noBreak : '\n' ∉ text) {tags : List InlineTag} (nonempty : tags ≠ []) :
    IsTidy (marked text tags) := by
  by_cases empty : text = []
  · rw [marked, if_pos empty]
    exact isTidy_tidy []
  rcases List.exists_cons_of_ne_nil nonempty with ⟨tag, rest, rfl⟩
  rcases tag.exists_marker_eq with ⟨char, single, inked⟩
  have whole : marked text (tag :: rest) = char :: (markers rest ++ text ++ markers rest.reverse) ++
      [char] := by
    rw [marked, if_neg empty]
    simp [markers, single]
  have trimmed : IsTrimmedLine (marked text (tag :: rest)) := by
    refine ⟨?_, break_notMem_marked noBreak _, ?_, ?_⟩
    · rw [whole]
      exact List.cons_ne_nil _ _
    · rw [whole]
      exact inked
    · rw [whole, List.getLast?_concat]
      exact inked
  exact isTidy_unlines (List.forall_mem_singleton.mpr trimmed)

theorem convertText_nest (options : Options) (bracketFree : '<' ∉ text) (ampersandFree : '&' ∉ text)
    (noBreak : '\n' ∉ text) {tags : List InlineTag} (nonempty : tags ≠ []) :
    convertText options (startTags tags ++ text ++ endTags tags.reverse) = marked text tags := by
  have trimmed : trim (Node.writeAll (nest text tags)) = Node.writeAll (nest text tags) := by
    rcases List.exists_cons_of_ne_nil nonempty with ⟨tag, rest, rfl⟩
    rw [writeAll_nest_cons, trim_tags]
  rw [← writeAll_nest, convertText_writeAll options (areWellFormed_nest bracketFree tags) trimmed,
    formatAll_nest options ampersandFree, (isTidy_marked noBreak nonempty).tidy_eq_self]

end InlineTag

open InlineTag

/-- The markers of a line stand around its text in the order of the tags, and behind it in the
opposite order. The text is kept as it is, blank or not; an empty one has no markers. -/
theorem convert_nested_markers (options : Options) (tags : List InlineTag) (text : List Char)
    (nonempty : tags ≠ []) (bracketFree : '<' ∉ text) (ampersandFree : '&' ∉ text)
    (noBreak : '\n' ∉ text) :
    convert (String.ofList (startTags tags ++ text ++ endTags tags.reverse)) options =
      String.ofList (if text = [] then [] else markers tags ++ text ++ markers tags.reverse) := by
  rw [convert, String.toList_ofList,
    convertText_nest options bracketFree ampersandFree noBreak nonempty, marked]

theorem convert_nested_markers_mixed :
    convert "<b><code><b> a />\r</b></code></b>" {} = "*`* a />\r*`*" := by
  refine Eq.trans (congrArg (convert · {}) ?_) ((convert_nested_markers {} [.b, .code, .b]
    " a />\r".toList (by decide) (by decide) (by decide) (by decide)).trans ?_)
  · decide +kernel
  · decide +kernel

end ChatMarkup
