import ChatMarkup.Format

/-!
Formatting with a stack of its own. A tree may be nested deeper than a recursion can go, so the walk
keeps the elements whose children are not all formatted yet in a list, the innermost first, and goes
from one state to the next.
-/

namespace ChatMarkup.Walk

variable {Handle : Type}

structure Frame (Handle : Type) where
  rule : Rule
  /-- The children still to be formatted, in order. -/
  pending : List Handle
  /-- The texts of the formatted children, the latest first. -/
  pieces : List (List Char)

def Frame.finish (frame : Frame Handle) : List Char :=
  match frame.rule with
  | .list kind => Rule.applyList kind frame.pieces.reverse
  | rule => rule.apply frame.pieces.reverse.flatten

def Frame.accept (text : List Char) (frame : Frame Handle) : Frame Handle :=
  { frame with pieces := text :: frame.pieces }

/-! ## Visiting a node -/

inductive Visit (Handle : Type) where
  /-- The node's text is known without its children. -/
  | done (text : List Char)
  | descend (frame : Frame Handle)

/-- An element without children, and one whose rule ignores them, is done at once. A list takes
nothing but its items. -/
def visit (arena : Arena Handle) (options : Options) (handle : Handle) : Visit Handle :=
  match arena.cell? handle with
  | none => .done []
  | some .comment => .done []
  | some (.text content) => .done (shownText options content)
  | some (.element name children) =>
    if children.isEmpty then .done (elementRule options name).applyVoid
    else
      match elementRule options name with
      | .drop => .done (Rule.drop.apply [])
      | .fixed literal => .done ((Rule.fixed literal).apply [])
      | .list kind => .descend ⟨.list kind, children.filter (arena.isItem options), []⟩
      | rule => .descend ⟨rule, children, []⟩

/-! ## States -/

inductive State (Handle : Type) where
  | visited (visit : Visit Handle) (stack : List (Frame Handle))
  /-- The innermost element goes on with its next child, or ends. -/
  | advancing (stack : List (Frame Handle))
  | returned (text : List Char)
  /-- The walk is over without a text, because no element was open where one had to be. -/
  | stranded

def deliver (text : List Char) : List (Frame Handle) → State Handle
  | [] => .returned text
  | parent :: outer => .advancing (parent.accept text :: outer)

def closeInnermost : List (Frame Handle) → State Handle
  | [] => .stranded
  | frame :: outer => deliver frame.finish outer

def advance (arena : Arena Handle) (options : Options) (stack : List (Frame Handle)) :
    State Handle :=
  match stack with
  | [] => .stranded
  | frame :: outer =>
    match frame.pending with
    | child :: rest =>
      .visited (visit arena options child) ({ frame with pending := rest } :: outer)
    | [] => closeInnermost stack

def step (arena : Arena Handle) (options : Options) : State Handle → State Handle
  | .visited (.descend frame) stack => .advancing (frame :: stack)
  | .visited (.done text) stack => deliver text stack
  | .advancing stack => advance arena options stack
  | .returned text => .returned text
  | .stranded => .stranded

def start (arena : Arena Handle) (options : Options) (root : Handle) : State Handle :=
  .visited (visit arena options root) []

/-! ## The end of the walk -/

/-- A weight for the handles that a frame has still to visit. -/
def Frame.workload (arena : Arena Handle) (frame : Frame Handle) : Nat :=
  3 * weigh (fun child => arena.descendants child + 1) frame.pending + 1

def stackWorkload (arena : Arena Handle) (stack : List (Frame Handle)) : Nat :=
  weigh (Frame.workload arena) stack

/-- Bounds the steps that a state has ahead of it. -/
def workload (arena : Arena Handle) : State Handle → Nat
  | .visited (.descend frame) stack => stackWorkload arena (frame :: stack) + 2
  | .visited (.done _) stack => stackWorkload arena stack + 2
  | .advancing stack => stackWorkload arena stack + 1
  | .returned _ => 0
  | .stranded => 0

theorem weigh_filter_le (keep : Handle → Bool) (weight : Handle → Nat) (handles : List Handle) :
    weigh weight (handles.filter keep) ≤ weigh weight handles := by
  induction handles with
  | nil => exact Nat.le_refl 0
  | cons handle rest induction =>
      rw [List.filter_cons, weigh_cons]
      split
      · rw [weigh_cons]
        omega
      · omega

/-- Descending leaves less to do than the handle had. -/
theorem workload_visit_le {arena : Arena Handle} {options : Options} {handle : Handle}
    {frame : Frame Handle} (visited : visit arena options handle = .descend frame) :
    frame.workload arena ≤ 3 * arena.descendants handle + 1 := by
  unfold visit at visited
  split at visited
  · cases visited
  · cases visited
  · cases visited
  · rename_i name children found
    have bounded := arena.descendants_le found
    split at visited
    · cases visited
    · split at visited
      · cases visited
      · cases visited
      · rcases Visit.descend.inj visited with rfl
        have fewer := weigh_filter_le (arena.isItem options)
          (fun child => arena.descendants child + 1) children
        simp only [Frame.workload]
        omega
      · rcases Visit.descend.inj visited with rfl
        simp only [Frame.workload]
        omega

theorem stackWorkload_cons (arena : Arena Handle) (frame : Frame Handle)
    (outer : List (Frame Handle)) :
    stackWorkload arena (frame :: outer) = frame.workload arena + stackWorkload arena outer := by
  rw [stackWorkload, weigh_cons, ← stackWorkload]

theorem workload_deliver_le (arena : Arena Handle) (text : List Char)
    (stack : List (Frame Handle)) :
    workload arena (deliver text stack) ≤ stackWorkload arena stack + 1 := by
  cases stack with
  | nil => exact Nat.zero_le _
  | cons parent outer => exact Nat.le_refl _

theorem workload_visited_le (arena : Arena Handle) (options : Options) (handle : Handle)
    (stack : List (Frame Handle)) :
    workload arena (.visited (visit arena options handle) stack) ≤
      3 * (arena.descendants handle + 1) + stackWorkload arena stack := by
  cases visited : visit arena options handle with
  | done text =>
      rw [workload]
      omega
  | descend frame =>
      have fewer := workload_visit_le visited
      rw [workload, stackWorkload_cons]
      omega

theorem workload_advance_lt (arena : Arena Handle) (options : Options)
    (stack : List (Frame Handle)) :
    workload arena (advance arena options stack) < workload arena (.advancing stack) := by
  cases stack with
  | nil => exact Nat.zero_lt_succ _
  | cons frame outer =>
      rw [workload, stackWorkload_cons]
      simp only [advance]
      split
      · rename_i child rest pending
        have visited := workload_visited_le arena options child
          ({ frame with pending := rest } :: outer)
        rw [stackWorkload_cons] at visited
        simp only [Frame.workload, pending, weigh_cons] at visited ⊢
        omega
      · have delivered := workload_deliver_le arena frame.finish outer
        have positive : 0 < frame.workload arena := Nat.zero_lt_succ _
        simp only [closeInnermost]
        omega

theorem workload_step_lt (arena : Arena Handle) (options : Options) (state : State Handle)
    (busy : 0 < workload arena state) :
    workload arena (step arena options state) < workload arena state := by
  match state with
  | .visited (.descend frame) stack => exact Nat.lt_succ_self _
  | .visited (.done text) stack =>
      exact Nat.lt_succ_of_le (workload_deliver_le arena text stack)
  | .advancing stack => exact workload_advance_lt arena options stack
  | .returned text => exact absurd busy (Nat.lt_irrefl 0)
  | .stranded => exact absurd busy (Nat.lt_irrefl 0)

def run (arena : Arena Handle) (options : Options) (state : State Handle) : List Char :=
  match state with
  | .returned text => text
  | .stranded => []
  | .visited visit stack => run arena options (step arena options (.visited visit stack))
  | .advancing stack => run arena options (step arena options (.advancing stack))
termination_by workload arena state
decreasing_by
  · exact workload_step_lt arena options _ (by cases visit <;> exact Nat.zero_lt_succ _)
  · exact workload_step_lt arena options _ (Nat.zero_lt_succ _)

end Walk

/-- The text of a node, computed without recursion on the tree. -/
def Walk.format (options : Options) (node : Node) : List Char :=
  Walk.run Node.arena options (Walk.start Node.arena options node)

example : Walk.format {} (.element "ol" [.element "li" [.text ['y']], .comment]) =
    "1. y".toList := by
  decide +kernel

end ChatMarkup
