import Mathlib.Logic.Function.Iterate
import ChatMarkup.Walk

/-!
The walk with a stack gives what the recursion gives. Every state of the walk stands for a text, the
one that is left when all that is pending is formatted by recursion. No step changes it, and every
step leaves less to do, so the walk ends with the text of its root.
-/

namespace ChatMarkup

variable {Handle : Type}

/-! ## The recursion -/

/-- The recursion by the kinds of nodes. -/
theorem Arena.format_eq (arena : Arena Handle) (options : Options) (handle : Handle) :
    arena.format options handle =
      match arena.cell? handle with
      | none => []
      | some .comment => []
      | some (.text content) => shownText options content
      | some (.element name children) =>
        if children.isEmpty then (elementRule options name).applyVoid
        else
          (elementRule options name).applyContent
            ((children.filter (arena.isItem options)).map (arena.format options))
            (children.flatMap (arena.format options)) := by
  rw [Arena.format]
  split <;> rename_i found <;> rw [found]

namespace Node

mutual

/-- On trees that are their own handles the two recursions agree. -/
theorem format_arena (options : Options) : (node : Node) →
    arena.format options node = node.format options
  | .text content => by
      rw [Arena.format]
      rfl
  | .comment => by
      rw [Arena.format]
      rfl
  | .element name [] => by
      rw [Arena.format]
      rfl
  | .element name (child :: rest) => by
      rw [Arena.format, Node.format, ← formatItems_arena options (child :: rest),
        ← formatAll_arena options (child :: rest)]
      rfl

theorem formatAll_arena (options : Options) : (nodes : List Node) →
    nodes.flatMap (arena.format options) = formatAll options nodes
  | [] => rfl
  | node :: rest => by
      rw [List.flatMap_cons, format_arena, formatAll_arena, formatAll]

theorem formatItems_arena (options : Options) : (nodes : List Node) →
    (nodes.filter (arena.isItem options)).map (arena.format options) = formatItems options nodes
  | [] => rfl
  | node :: rest => by
      have item : arena.isItem options node = node.isItem options := by cases node <;> rfl
      rw [List.filter_cons, formatItems, item]
      split
      · rw [List.map_cons, format_arena, formatItems_arena]
      · exact formatItems_arena options rest

end

end Node

namespace Walk

variable (arena : Arena Handle) (options : Options)

/-! ## The text that a state stands for -/

def Frame.total (frame : Frame Handle) : List Char :=
  let formatted := frame.pending.map (arena.format options)
  let ended : Frame Handle := ⟨frame.rule, [], formatted.reverse ++ frame.pieces⟩
  ended.finish

def Visit.total : Visit Handle → List Char
  | .done text => text
  | .descend frame => frame.total arena options

/-- The text of the outermost element, where `text` goes to the innermost. -/
def totalFrom (text : List Char) : List (Frame Handle) → List Char
  | [] => text
  | parent :: outer => totalFrom ((parent.accept text).total arena options) outer

def State.total : State Handle → List Char
  | .visited visit stack => totalFrom arena options (visit.total arena options) stack
  | .advancing [] => []
  | .advancing (frame :: outer) => totalFrom arena options (frame.total arena options) outer
  | .returned text => text
  | .stranded => []

/-- While the walk goes on with an element, there is one. -/
def State.Sound : State Handle → Prop
  | .visited _ _ => True
  | .advancing stack => stack ≠ []
  | .returned _ => True
  | .stranded => False

theorem Frame.total_of_pending_nil {frame : Frame Handle} (ended : frame.pending = []) :
    frame.total arena options = frame.finish := by
  rcases frame with ⟨rule, pending, pieces⟩
  subst ended
  rfl

/-- Formatting the next child first makes no difference. -/
theorem Frame.total_of_pending_cons {frame : Frame Handle} {child : Handle} {rest : List Handle}
    (next : frame.pending = child :: rest) :
    (Frame.accept (arena.format options child) { frame with pending := rest }).total arena options =
      frame.total arena options := by
  rcases frame with ⟨rule, pending, pieces⟩
  subst next
  simp only [Frame.total, Frame.accept, List.map_cons, List.reverse_cons, List.append_assoc,
    List.singleton_append]

/-- Visiting a handle settles its text, or opens a frame that stands for it. -/
theorem Visit.total_visit (handle : Handle) :
    (visit arena options handle).total arena options = arena.format options handle := by
  rw [Arena.format_eq, visit]
  cases arena.cell? handle with
  | none => rfl
  | some cell =>
      cases cell with
      | comment => rfl
      | text content => rfl
      | element name children =>
          cases children with
          | nil => rfl
          | cons child rest =>
              simp only [List.isEmpty_cons, Bool.false_eq_true, if_false]
              cases elementRule options name <;>
                simp only [Visit.total, Frame.total, Frame.finish, Rule.applyContent,
                  List.append_nil, List.reverse_reverse, List.flatMap_def]

/-! ## Steps -/

theorem State.total_deliver (text : List Char) (stack : List (Frame Handle)) :
    (deliver text stack).total arena options = totalFrom arena options text stack := by
  cases stack with
  | nil => rfl
  | cons parent outer => rfl

theorem State.sound_deliver (text : List Char) (stack : List (Frame Handle)) :
    (deliver text stack).Sound := by
  cases stack with
  | nil => trivial
  | cons parent outer => exact List.cons_ne_nil _ _

theorem State.sound_step {state : State Handle} (sound : state.Sound) :
    (step arena options state).Sound := by
  match state with
  | .visited (.descend frame) stack => exact List.cons_ne_nil _ _
  | .visited (.done text) stack => exact sound_deliver text stack
  | .advancing [] => exact absurd rfl sound
  | .advancing (frame :: outer) =>
      simp only [step, advance]
      split
      · trivial
      · exact sound_deliver frame.finish outer
  | .returned text => trivial

/-- A step does not change the text that is left in the end. -/
theorem State.total_step {state : State Handle} (sound : state.Sound) :
    (step arena options state).total arena options = state.total arena options := by
  match state with
  | .visited (.descend frame) stack => rfl
  | .visited (.done text) stack => exact total_deliver arena options text stack
  | .advancing [] => exact absurd rfl sound
  | .advancing (frame :: outer) =>
      simp only [step, advance]
      split
      · rename_i child rest next
        rw [State.total, Visit.total_visit, totalFrom,
          Frame.total_of_pending_cons arena options next, State.total]
      · rename_i ended
        rw [closeInnermost, total_deliver, State.total,
          Frame.total_of_pending_nil arena options ended]
  | .returned text => rfl

/-! ## The whole walk -/

/-- From every state in which an element is open where one has to be, the walk ends with the text
that the state stands for. -/
theorem run_eq_total {state : State Handle} (sound : state.Sound) :
    run arena options state = state.total arena options := by
  fun_induction run arena options state with
  | case1 text => rfl
  | case2 => exact absurd sound id
  | case3 visit stack induction =>
      rw [induction (State.sound_step arena options sound), State.total_step arena options sound]
  | case4 stack induction =>
      rw [induction (State.sound_step arena options sound), State.total_step arena options sound]

/-- Only a finished walk has no work left, so the steps reach one. -/
theorem exists_returned {state : State Handle} (sound : state.Sound) :
    ∃ steps, (step arena options)^[steps] state = .returned (state.total arena options) := by
  fun_induction run arena options state with
  | case1 text => exact ⟨0, rfl⟩
  | case2 => exact absurd sound id
  | case3 visit stack induction =>
      rcases induction (State.sound_step arena options sound) with ⟨steps, returned⟩
      exact ⟨steps + 1, by
        rw [Function.iterate_succ_apply, returned, State.total_step arena options sound]⟩
  | case4 stack induction =>
      rcases induction (State.sound_step arena options sound) with ⟨steps, returned⟩
      exact ⟨steps + 1, by
        rw [Function.iterate_succ_apply, returned, State.total_step arena options sound]⟩

theorem sound_iterate {state : State Handle} (sound : state.Sound) (steps : Nat) :
    ((step arena options)^[steps] state).Sound := by
  induction steps with
  | zero => exact sound
  | succ steps induction =>
      rw [Function.iterate_succ_apply']
      exact State.sound_step arena options induction

theorem run_start (root : Handle) :
    run arena options (start arena options root) = arena.format options root := by
  rw [run_eq_total arena options (by trivial)]
  exact Visit.total_visit arena options root

/-- On trees the walk gives the text of the recursion. -/
theorem format_eq (node : Node) : Walk.format options node = node.format options := by
  rw [Walk.format, run_start, Node.format_arena]

/-- From every root the steps of the walk come to an end with the text of the recursion, and on the
way there is always an element where one has to be. -/
theorem walk_refines_recursion (root : Handle) :
    run arena options (start arena options root) = arena.format options root ∧
      (∃ steps, (step arena options)^[steps] (start arena options root) =
        .returned (arena.format options root)) ∧
      ∀ steps, (step arena options)^[steps] (start arena options root) ≠ .stranded := by
  have sound : (start arena options root).Sound := trivial
  have total : (start arena options root).total arena options = arena.format options root :=
    Visit.total_visit arena options root
  refine ⟨run_start arena options root, ?_, ?_⟩
  · rcases exists_returned arena options sound with ⟨steps, returned⟩
    exact ⟨steps, returned.trans (by rw [total])⟩
  · intro steps stranded
    have still := sound_iterate arena options sound steps
    rw [stranded] at still
    exact still

end Walk

end ChatMarkup
