import Tether.Proofs.Context.Gauge
import Tether.Proofs.Link.Counters

/-!
# Handles that are held, and handles that went with their context

A program may have any number of contexts, each with a strategy and a connector of its own,
and may turn to them in any order. At every moment of every run, the acquisitions counted
under a label, less the releases, are the contexts with this label that hold a handle and
those that were dropped while they did. A release by an exit or by a guard is counted, and
one by the drop of the context is not; so the two counters tell how many handles are held
exactly as long as no context was dropped with its handle.
-/
namespace Tether

variable {σ η : Type}

/-- A context and the connector that it asks, which counts for no context. -/
structure Seat (σ η : Type) where
  connector : Connector σ η
  neutral : connector.Neutral
  context : Context η

/-- Contexts in their seats, and the world that they share. -/
structure Roster (σ η : Type) where
  seats : List (Seat σ η) := []
  world : World σ

/-- One operation of a program on its contexts, which are named by their places. Bodies may
have results of any type. -/
inductive Turn (σ η : Type) : Type 1 where
  | new (c : Connector σ η) (neutral : c.Neutral) (s : Strategy)
  | enter (index : Nat)
  | use (index : Nat) {α : Type} (body : Context.Body σ η α) (missing : Outcome α)
      (neutral : body.Neutral)
  | exit (index : Nat)
  /-- A scope or a run. How it ends, and whether it ever does, is up to the body. -/
  | bracket (index : Nat) (leak : Bool) {α : Type} (body : Context.Body σ η α)
      (neutral : body.Neutral)
  | drop (index : Nat)
  /-- Anything else that happens in the world. -/
  | outside (work : World σ → World σ)
      (neutral : ∀ w label, (work w).journal.gauge label = w.journal.gauge label)

namespace Roster

def start (net : σ) (process : ProcessEnvironment) : Roster σ η := { world := { net, process } }

def atSeat (s : Roster σ η) (index : Nat)
    (work : Seat σ η → World σ → Context η × World σ) : Roster σ η :=
  match s.seats[index]? with
  | none => s
  | some seat =>
    { seats := s.seats.set index { seat with context := (work seat s.world).1 }
      world := (work seat s.world).2 }

def drop (s : Roster σ η) (index : Nat) : Roster σ η :=
  match s.seats[index]? with
  | none => s
  | some seat =>
    { seats := s.seats.eraseIdx index, world := seat.context.release seat.connector s.world }

/-- Makes a turn. Its answer is left out: what it leaves behind is what counts here. -/
def step (s : Roster σ η) : Turn σ η → Roster σ η
  | .new c neutral strategy =>
    { s with seats := s.seats ++ [{ connector := c, neutral, context := { strategy } }] }
  | .enter index => s.atSeat index fun seat w => (seat.context.enter seat.connector w).2
  | .use index body missing _ => s.atSeat index fun seat w => (seat.context.use body missing w).2
  | .exit index => s.atSeat index fun seat w => (seat.context.exit seat.connector w).2
  | .bracket index leak body _ => s.atSeat index fun seat w =>
      (seat.context.bracket seat.connector leak body w).2
  | .drop index => s.drop index
  | .outside work _ => { s with world := work s.world }

def run (s : Roster σ η) (turns : List (Turn σ η)) : Roster σ η := turns.foldl step s

/-- The contexts with a label that hold a handle. -/
def holding (label : Strategy.Label) (s : Roster σ η) : Nat :=
  s.seats.countP fun seat => seat.context.holds label

/-- Whether a turn drops a context with a label that holds a handle, as a number. -/
def abandons (label : Strategy.Label) (s : Roster σ η) : Turn σ η → Nat
  | .drop index => if s.seats[index]?.any fun seat => seat.context.holds label then 1 else 0
  | _ => 0

/-- The contexts with a label that were dropped in a run while they held a handle. -/
def abandoned (label : Strategy.Label) : Roster σ η → List (Turn σ η) → Nat
  | _, [] => 0
  | s, t :: rest => s.abandons label t + abandoned label (s.step t) rest

variable (label : Strategy.Label)

/-- What the counters show beyond the handles that are held. -/
def slack (s : Roster σ η) : Int :=
  s.world.journal.gauge label - (s.seats.map fun seat => seat.context.grip label).sum

/-- What one context contributes to the gauge is one for a held handle, so all of them
together contribute the handles held. -/
theorem slack_eq_sub_holding (s : Roster σ η) :
    s.slack label = s.world.journal.gauge label - s.holding label := by
  rw [holding, countP_eq_sum]
  rfl

/-- Work on one context keeps the slack if it moves the gauge as the grip of this context
moves. The other contexts are not touched. -/
theorem atSeat_slack (s : Roster σ η) (index : Nat)
    (work : Seat σ η → World σ → Context η × World σ)
    (kept : ∀ seat w, (work seat w).2.journal.gauge label - (work seat w).1.grip label =
      w.journal.gauge label - seat.context.grip label) :
    (s.atSeat index work).slack label = s.slack label := by
  unfold atSeat
  split
  · rfl
  next seat found =>
    have worked := kept seat s.world
    simp only [slack, sum_map_set _ _ _ _ _ found]
    omega

/-- The handle of a dropped context is no longer held, and its release was not counted. -/
theorem drop_slack (s : Roster σ η) (index : Nat) :
    (s.drop index).slack label = s.slack label + s.abandons label (.drop index) := by
  unfold drop abandons
  split
  next missing => simp [missing]
  next seat found =>
    -- The gauge stays where it was, and the grip of the dropped context is gone.
    have released := Context.release_gauge seat.neutral label seat.context s.world
    simp only [slack, sum_map_eraseIdx _ _ _ _ found, released, Context.grip, found,
      Option.any_some, Nat.cast_ite, Nat.cast_one, Nat.cast_zero]
    omega

/-- Of all turns only dropping an entered context moves the slack, and then up by one. -/
theorem step_slack (s : Roster σ η) (t : Turn σ η) :
    (s.step t).slack label = s.slack label + s.abandons label t := by
  have balanced := fun seat : Seat σ η => Context.neutral_balanced seat.neutral label
  cases t with
  | new c neutral strategy => simp [step, slack, abandons, Context.grip_of_empty]
  | enter index =>
    exact (atSeat_slack label s index _ fun seat w =>
      Context.enter_balanced (balanced seat) seat.context w).trans (Int.add_zero _).symm
  | use index body missing neutral =>
    have steady := Context.neutral_steady neutral label
    exact (atSeat_slack label s index _ fun seat w =>
      Context.use_balanced steady missing seat.context w).trans (Int.add_zero _).symm
  | exit index =>
    exact (atSeat_slack label s index _ fun seat w =>
      Context.exit_balanced (balanced seat) seat.context w).trans (Int.add_zero _).symm
  | bracket index leak body neutral =>
    have steady := Context.neutral_steady neutral label
    exact (atSeat_slack label s index _ fun seat w =>
      Context.bracket_balanced (balanced seat) leak steady seat.context w).trans
        (Int.add_zero _).symm
  | drop index => exact drop_slack label s index
  | outside work neutral => simp [step, slack, abandons, neutral]

theorem run_append (s : Roster σ η) (turns more : List (Turn σ η)) :
    s.run (turns ++ more) = (s.run turns).run more := List.foldl_append

/-- By induction on the turns, the slack of a run is the number of contexts that were
dropped while entered. -/
theorem run_slack (s : Roster σ η) (turns : List (Turn σ η)) :
    (s.run turns).slack label = s.slack label + abandoned label s turns := by
  induction turns generalizing s with
  | nil => simp [run, abandoned]
  | cons t rest ih =>
    have first := step_slack label s t
    have others := ih (s.step t)
    simp only [run, List.foldl_cons, abandoned, Nat.cast_add] at others ⊢
    omega

/-- After every run, acquisitions less releases are the handles held and those abandoned.
The counters are right about what is held exactly if nothing was abandoned, and then, with
nothing held, each acquisition has been matched by a release. -/
theorem gauge_eq_holding_add_abandoned (net : σ) (process : ProcessEnvironment)
    (turns : List (Turn σ η)) :
    let s : Roster σ η := start net process
    (s.run turns).world.journal.gauge label =
        (s.run turns).holding label + abandoned label s turns ∧
      ((s.run turns).world.journal.gauge label = (s.run turns).holding label ↔
        abandoned label s turns = 0) ∧
      (abandoned label s turns = 0 → (s.run turns).holding label = 0 →
        (s.run turns).world.journal.total (.entered label) =
          (s.run turns).world.journal.total (.exited label)) := by
  intro s
  have nothing : s.slack label = 0 := rfl
  have whole := run_slack label s turns
  rw [slack_eq_sub_holding, nothing] at whole
  refine ⟨by omega, ⟨fun held => by omega, fun kept => by omega⟩, fun kept empty => ?_⟩
  rw [kept, empty, Journal.gauge] at whole
  omega

end Roster
end Tether
