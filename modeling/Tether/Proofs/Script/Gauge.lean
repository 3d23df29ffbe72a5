import Tether.Proofs.Context.Roster
import Tether.Script

/-!
# The counters of a scripted context

A script's one context sits on a roster of its own: each step is a turn or two there, and
replacing the context is dropping it and seating a new one. So the law of the roster holds
for every script and all steps, and a context that is replaced while it holds its handle is
what sets the counters apart from the handles.
-/
namespace Tether.Script

theorem connector_neutral (script : List Cue) : (connector script).Neutral where
  connect call w label := by
    simp only [connector, answer]
    split <;> rfl
  release _ _ _ := rfl

theorem body_neutral (actions : List Action) : (body actions).Neutral := fun _ _ _ => rfl

theorem endlessBody_neutral (actions : List Action) : (endlessBody actions).Neutral := by
  intro h w label
  unfold endlessBody
  split <;> rfl

theorem guardedBody_neutral (actions : List Action) : (guardedBody actions).Neutral := by
  intro h w label
  unfold guardedBody
  split <;> rfl

def Stage.roster (script : List Cue) (stage : Stage) : Roster State Handle where
  seats :=
    [{ connector := connector script
       neutral := connector_neutral script
       context := stage.context }]
  world := stage.world

/-- A step as turns on the only context of the roster. -/
def Stage.turns (script : List Cue) (stage : Stage) : Step → List (Turn State Handle)
  | .enter => [.enter 0]
  | .exit => [.exit 0]
  | .scope actions => [.bracket 0 false (guardedBody actions) (guardedBody_neutral actions)]
  | .scopeLeaked actions => [.bracket 0 true (body actions) (body_neutral actions)]
  | .run actions => [.bracket 0 false (body actions) (body_neutral actions)]
  | .runEndless actions => [.bracket 0 false (endlessBody actions) (endlessBody_neutral actions)]
  | .renew =>
    [.drop 0, .new (connector script) (connector_neutral script) stage.context.strategy]

def allTurns (script : List Cue) : List Step → Stage → List (Turn State Handle)
  | [], _ => []
  | s :: rest, stage => stage.turns script s ++ allTurns script rest (step script stage s).2

/-- A step is at most two turns: dropping the context and starting a new one. -/
theorem step_roster (script : List Cue) (stage : Stage) (s : Step) :
    (step script stage s).2.roster script = (stage.roster script).run (stage.turns script s) := by
  cases s <;> rfl

/-- By induction on the steps, with the stage that each of them leaves. -/
theorem reports_roster (script : List Cue) (steps : List Step) (stage : Stage) :
    (reports script steps stage).2.roster script =
      (stage.roster script).run (allTurns script steps stage) := by
  induction steps generalizing stage with
  | nil => rfl
  | cons s rest ih =>
    rw [allTurns, Roster.run_append, ← step_roster]
    exact ih (step script stage s).2

/-- After all steps, acquisitions less releases are the held handle, if any, and those that
went with a context that was replaced. -/
theorem reports_gauge (script : List Cue) (strategy : Strategy) (steps : List Step)
    (label : Strategy.Label) :
    (reports script steps (start strategy)).2.world.journal.gauge label =
      (reports script steps (start strategy)).2.context.grip label +
        Roster.abandoned label ((start strategy).roster script)
          (allTurns script steps (start strategy)) := by
  have nothing : ((start strategy).roster script).slack label = 0 := rfl
  have whole := Roster.run_slack label ((start strategy).roster script)
    (allTurns script steps (start strategy))
  rw [← reports_roster, nothing] at whole
  simp only [Roster.slack, Stage.roster, List.map_cons, List.map_nil, List.sum_cons,
    List.sum_nil] at whole ⊢
  omega

/-- A context that is replaced while it holds a handle drops it uncounted: its acquisition
stays on the counters for ever. -/
theorem renewed_context_never_exits :
    let r := reports [] [.enter, .renew] (start .auto)
    r.2.context.held = none ∧ r.2.world.net.dropped = [{ id := 1 }] ∧
      r.2.world.journal.total (.entered .auto) = 1 ∧
      r.2.world.journal.total (.exited .auto) = 0 := by
  decide

end Tether.Script
