import ChatMarkup.Proofs.NestedReading
import ChatMarkup.Proofs.OmittedEndTags

/-!
A comment between two texts. It shows nothing itself, and what comes after it is text again; where
that is depends on how the reader looks for the end of the comment. An empty comment does not end
where it is written to end: its end is taken for the beginning of its content.
-/

namespace ChatMarkup

open Text Source

/-! ## The end of a comment -/

namespace Markup

def comment (body : List Char) : List Char := "<!--".toList ++ (body ++ "-->".toList)

def afterComment (progress : CommentEnd) : List Char → List Char
  | [] => []
  | char :: rest =>
    match progress, char with
    | .dashes, '>' => rest
    | .dash, '-' => afterComment .dashes rest
    | .far, '-' => afterComment .dash rest
    | _, _ => afterComment .far rest

theorem afterComment_far_append {body : List Char} (noDash : '-' ∉ body) (rest : List Char) :
    afterComment .far (body ++ rest) = afterComment .far rest := by
  induction body with
  | nil => rfl
  | cons char body induction =>
      rw [List.mem_cons, not_or] at noDash
      rw [List.cons_append, afterComment.eq_5 .far char _ nofun nofun fun _ => Ne.symm noDash.1]
      exact induction noDash.2

/-- A comment with some content ends where it is written to end. -/
theorem afterComment_append {body : List Char} (nonempty : body ≠ []) (noDash : '-' ∉ body)
    (noEnd : '>' ∉ body) (rest : List Char) :
    afterComment .dashes (body ++ ("-->".toList ++ rest)) = rest := by
  cases body with
  | nil => exact absurd rfl nonempty
  | cons first body =>
      rw [List.mem_cons, not_or] at noDash noEnd
      rw [List.cons_append,
        afterComment.eq_5 .dashes first _ (fun _ => Ne.symm noEnd.1) nofun nofun,
        afterComment_far_append noDash.2]
      rfl

/-- The end of an empty comment is content, which goes on to the next end of a comment. -/
theorem afterComment_empty (rest : List Char) :
    afterComment .dashes ("-->".toList ++ rest) = afterComment .far rest :=
  rfl

/-! ## Reading a comment -/

namespace Reader

theorem goTo_addAll (phase : Phase) (nodes : List Node) (reader : Reader) :
    (addAll nodes reader).goTo phase = addAll nodes (reader.goTo phase) := by
  induction nodes generalizing reader with
  | nil => rfl
  | cons node rest induction => exact (induction _).trans (congrArg _ (goTo_add phase node reader))

theorem nodes_goTo (phase : Phase) (reader : Reader) : (reader.goTo phase).nodes = reader.nodes :=
  rfl

/-- Nothing but a text follows a comment. -/
theorem nodes_afterComment {rest : List Char} (free : '<' ∉ rest) (progress : CommentEnd)
    (reader : Reader) :
    (rest.foldl step (reader.goTo (.comment progress))).finish.nodes =
      (addAll (.comment :: textNodes (afterComment progress rest)) reader).nodes := by
  induction rest generalizing progress with
  | nil =>
      change ((reader.goTo _).add .comment).nodes = (reader.add .comment).nodes
      rw [← goTo_add, nodes_goTo]
  | cons char rest induction =>
      rw [List.mem_cons, not_or] at free
      have stepped : (reader.goTo (.comment progress)).step char =
          (reader.goTo (.comment progress)).stepComment progress char := rfl
      rw [List.foldl_cons, stepped]
      unfold stepComment
      split
      · have closed : ((reader.goTo (.comment .dashes)).add .comment).goTo .between =
            (reader.add .comment).goTo .between := by
          rw [goTo_add, goTo_add]
          rfl
        have between : ((reader.add .comment).goTo .between).phase = .between := rfl
        rcases foldl_step_textNodes free.2 between with ⟨atBreak, settled⟩
        rw [closed, nodes_finish atBreak, settled, ← goTo_addAll, nodes_goTo]
        rfl
      · exact induction free.2 _
      · exact induction free.2 _
      · rename_i noEnd noSecond noFirst
        rw [afterComment.eq_5 progress char rest noEnd noSecond noFirst]
        exact induction free.2 _

end Reader

/-- A comment stays open until the reader finds its end. -/
theorem read_comment {before rest : List Char} (beforeFree : '<' ∉ before) (free : '<' ∉ rest) :
    read (before ++ ("<!--".toList ++ rest)) =
      textNodes before ++ .comment :: textNodes (afterComment .dashes rest) := by
  rcases @Reader.foldl_step_textNodes before beforeFree .start rfl with ⟨atBreak, settled⟩
  have opened : "<!--".toList.foldl Reader.step (before.foldl Reader.step .start) =
      (Reader.addAll (textNodes before) .start).goTo (.comment .dashes) := by
    change "!--".toList.foldl Reader.step ((before.foldl Reader.step .start).step '<') = _
    rw [atBreak.step_bracket, settled]
    rfl
  rw [read, List.foldl_append, List.foldl_append, opened, Reader.nodes_afterComment free,
    ← Reader.addAll_append, Reader.addAll_top _ rfl, Reader.nodes]
  simp [Reader.start]

end Markup

/-! ## The message -/

variable {options : Options} {before rest : List Char}

/-- There is no tag to remove and none to expand. -/
theorem prepare_comment (beforeFree : '<' ∉ before) (free : '<' ∉ rest) :
    prepare options (before ++ ("<!--".toList ++ rest)) = before ++ ("<!--".toList ++ rest) := by
  have tailFree : '<' ∉ '!' :: '-' :: '-' :: rest := by simpa using free
  have removed : removeHidden options (before ++ ("<!--".toList ++ rest)) =
      before ++ ("<!--".toList ++ rest) := by
    apply removeHidden_of_no_endTag
    intro hidden _
    have noEndTag : afterEndTag? options.lowercaseTags hidden ('<' :: '!' :: '-' :: '-' :: rest) =
        none := by
      cases options.lowercaseTags <;> rfl
    have noBody := @afterBody?_bracket options.lowercaseTags _ hidden [] tailFree
    rw [List.append_nil] at noBody
    rw [afterBody?_append_of_free beforeFree]
    exact noBody noEndTag
  have kept := @expandSelfClosing_bracket_append '!' (by decide) _ tailFree []
  rw [List.append_nil] at kept
  rw [prepare, removed, expandSelfClosing_append_of_free beforeFree]
  exact congrArg _ (kept.trans (congrArg _ (congrArg _ (List.append_nil _))))

theorem areMisnested_textNodes (text : List Char) : Node.areMisnested (textNodes text) = false := by
  cases text <;> rfl

/-- The message of a page with a comment, wherever the comment ends. -/
theorem convertText_comment (beforeFree : '<' ∉ before) (free : '<' ∉ rest) :
    convertText options (before ++ ("<!--".toList ++ rest)) =
      tidy (shownText options (trimStart before) ++
        shownText options (Markup.afterComment .dashes (trimEnd rest))) := by
  have trimmed : trim (before ++ ("<!--".toList ++ rest)) =
      trimStart before ++ ("<!--".toList ++ trimEnd rest) := by
    have ends : trimEnd ("!-".toList ++ '-' :: rest) = "!-".toList ++ '-' :: trimEnd rest :=
      trimEndWhere_append_cons _ (by decide) rest
    exact (trim_append_cons before (by decide) _).trans
      (congrArg (trimStart before ++ '<' :: ·) ends)
  have startFree : '<' ∉ trimStart before := fun member =>
    beforeFree ((List.dropWhile_sublist isBlank).mem member)
  have endFree : '<' ∉ trimEnd rest := fun member =>
    free ((trimEndWhere_sublist isBlank rest).mem member)
  have nodes : Markup.read (prepare options (trim (before ++ ("<!--".toList ++ rest)))) =
      textNodes (trimStart before) ++
        .comment :: textNodes (Markup.afterComment .dashes (trimEnd rest)) := by
    rw [trimmed, prepare_comment startFree endFree, Markup.read_comment startFree endFree]
  rw [convertText_of_not_misnested, nodes, formatAll_append, formatAll_textNodes, Node.formatAll,
    formatAll_textNodes, Node.format, List.nil_append]
  rw [nodes, Node.hasMisnested_eq, Node.areMisnested_append, areMisnested_textNodes,
    Node.areMisnested, areMisnested_textNodes]
  rfl

theorem convertText_closed_comment {body after : List Char} (beforeFree : '<' ∉ before)
    (bodyFree : '<' ∉ body) (afterFree : '<' ∉ after) :
    convertText options (before ++ Markup.comment body ++ after) =
      tidy (shownText options (trimStart before) ++
        shownText options
          (Markup.afterComment .dashes (body ++ ("-->".toList ++ trimEnd after)))) := by
  have whole : before ++ Markup.comment body ++ after =
      before ++ ("<!--".toList ++ (body ++ ("-->".toList ++ after))) := by
    simp [Markup.comment]
  have ends : trimEnd (body ++ ("-->".toList ++ after)) =
      body ++ ("-->".toList ++ trimEnd after) := by
    have kept := @trimEndWhere_append_cons isBlank (body ++ ['-', '-']) '>' (by decide) after
    rw [List.append_assoc, List.append_assoc] at kept
    exact kept
  have free : '<' ∉ body ++ ("-->".toList ++ after) := by
    simpa using ⟨bodyFree, afterFree⟩
  rw [whole, convertText_comment beforeFree free, ends]

/-- A comment with some content shows nothing and leaves the texts around it as they are. -/
theorem convert_comment (options : Options) (before body after : List Char)
    (beforeFree : '<' ∉ before) (afterFree : '<' ∉ after) (nonempty : body ≠ [])
    (bodyFree : '<' ∉ body ∧ '>' ∉ body ∧ '-' ∉ body) :
    convert (String.ofList (before ++ Markup.comment body ++ after)) options =
      String.ofList (tidy (shownText options (trimStart before) ++
        shownText options (trimEnd after))) := by
  rcases bodyFree with ⟨noBracket, noEnd, noDash⟩
  rw [convert, String.toList_ofList, convertText_closed_comment beforeFree noBracket afterFree,
    Markup.afterComment_append nonempty noDash noEnd]

theorem convert_comment_entities :
    convert " a &amp;<!-- b &lt; c ! --> d " {} = "a & d" := by
  have converted := convert_comment {} " a &amp;".toList " b &lt; c ! ".toList " d ".toList
    (by decide) (by decide) (by decide) (by decide)
  refine Eq.trans (congrArg (convert · {}) ?_) (converted.trans ?_)
  · decide +kernel
  · decide +kernel

/-- What follows an empty comment is lost up to the end of another comment. -/
theorem convertText_empty_comment {after : List Char} (beforeFree : '<' ∉ before)
    (afterFree : '<' ∉ after) (noDash : '-' ∉ after) :
    convertText options (before ++ Markup.comment [] ++ after) =
      tidy (shownText options (trimStart before)) := by
  have lost : Markup.afterComment .far (trimEnd after) = [] := by
    have dashFree : '-' ∉ trimEnd after := fun member =>
      noDash ((trimEndWhere_sublist isBlank after).mem member)
    have passed := Markup.afterComment_far_append dashFree []
    rw [List.append_nil] at passed
    exact passed
  rw [convertText_closed_comment beforeFree List.not_mem_nil afterFree, List.nil_append,
    Markup.afterComment_empty, lost, shownText_nil, List.append_nil]

theorem text_lost_after_empty_comment :
    ∃ before after : List Char, '<' ∉ before ∧ '<' ∉ after ∧
      convert (String.ofList (before ++ Markup.comment [] ++ after)) {} ≠
        String.ofList (tidy (shownText {} (trimStart before) ++ shownText {} (trimEnd after))) :=
  ⟨['a'], ['b'], by decide, by decide, by decide +kernel⟩

end ChatMarkup
