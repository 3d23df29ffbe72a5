import Tether.Loopback
import Tether.Proofs.Context.Roster
import Tether.Proofs.Holdings

/-!
# The counters of contexts over a network

The contexts that a program has in hand sit on a roster. Every move is a turn there: moves
on contexts are turns of the same name, and all others count for no context. So the law of
the roster holds for all runs over every network, with links, lists and daemons besides.
-/
namespace Tether

open Link NetworkConnector

variable {σ : Type}

theorem Way.go_gauge (net : Fabric σ) (c : NetworkConnector) (way : Way) (w : World σ)
    (label : Strategy.Label) : (way.go net c w).2.journal.gauge label = w.journal.gauge label := by
  have connects := fun s => connectTo_gauge net c s w label
  have answers := fun (c : NetworkConnector) call =>
    (connector_neutral net c).connect call w label
  cases way with
  | opening kind endpoint => exact connect_gauge net kind endpoint c.config w label
  | arqTo ip => exact connects (.hardware ip)
  | arq env => exact answers { c with env := some env } .arq
  | simTo endpoint => exact connects (.simulation endpoint)
  | sim env => exact answers { c with env := some env } .sim
  | daemonTo endpoint => exact connects (.daemon endpoint)
  | daemon env =>
    simp only [go, connectDaemon]
    cases env.daemon with
    | error e => rfl
    | ok found =>
      cases found with
      | none => rfl
      | some endpoint => exact connects (.daemon endpoint)
  | selection s => exact connects s
  | call asked => exact answers c asked

theorem Link.releaseAll_gauge (net : Fabric σ) (ls : List Link) (w : World σ)
    (label : Strategy.Label) :
    (releaseAll net ls w).journal.gauge label = w.journal.gauge label := by
  induction ls generalizing w with
  | nil => rfl
  | cons l rest ih => exact (ih (l.release net w)).trans (release_gauge net l w label)

namespace NetworkConnector

theorem connectEach_gauge (net : Fabric σ) (c : NetworkConnector) (selections : List Selection)
    (opened : List Link) (w : World σ) (label : Strategy.Label) :
    (c.connectEach net selections opened w).2.journal.gauge label = w.journal.gauge label := by
  induction selections generalizing opened w with
  | nil => rfl
  | cons s rest ih =>
    have first := connectTo_gauge net c s w label
    unfold connectEach
    generalize c.connectTo net s w = answer at first ⊢
    obtain ⟨l | e | p | _, after⟩ := answer
    · exact (ih (opened ++ [l]) after).trans first
    all_goals exact (releaseAll_gauge net opened after label).trans first

theorem connectAll_gauge (net : Fabric σ) (c : NetworkConnector) (limit : Option Nat)
    (w : World σ) (label : Strategy.Label) :
    (c.connectAll net limit w).2.journal.gauge label = w.journal.gauge label := by
  unfold connectAll
  cases (c.environment w).selectAll limit with
  | error e => rfl
  | ok selections => exact connectEach_gauge net c selections [] w label

end NetworkConnector

namespace Holdings

def seat (net : Fabric σ) (h : Holder) : Seat σ Link where
  connector := h.connector.connector net
  neutral := connector_neutral net h.connector
  context := h.context

def roster (net : Fabric σ) (s : Holdings σ) : Roster σ Link where
  seats := s.holders.map (seat net)
  world := s.world

/-- A move as a turn. Work on a link is found by its place before the turn is made. -/
def turn (net : Fabric σ) (s : Holdings σ) : Move σ → Turn σ Link
  | .connect c way => .outside (fun w => (way.go net c w).2) (way.go_gauge net c)
  | .connectAll c limit =>
    .outside (fun w => (c.connectAll net limit w).2) (connectAll_gauge net c limit)
  | .deed index d =>
    match s.links[index]? with
    | none => .outside id fun _ _ => rfl
    | some l => .outside (fun w => (l.perform net d w).2.2) (perform_gauge net d l)
  | .drop index =>
    match s.links[index]? with
    | none => .outside id fun _ _ => rfl
    | some l => .outside (l.release net) (release_gauge net l)
  | .newContext c strategy => .new (c.connector net) (connector_neutral net c) strategy
  | .enter index => .enter index
  | .deedHeld index d => .use index (fun l => l.perform net d) (.done ()) (perform_gauge net d)
  | .exit index => .exit index
  | .scope index leak deeds ending =>
    .bracket index leak (Link.body net deeds ending) (body_neutral net deeds ending)
  | .run index deeds ending =>
    .bracket index false (Link.body net deeds ending) (body_neutral net deeds ending)
  | .dropContext index => .drop index
  | .outside state process =>
    .outside (fun w => { w with net := state, process }) fun _ _ => rfl

def turns (net : Fabric σ) : Holdings σ → List (Move σ) → List (Turn σ Link)
  | _, [] => []
  | s, m :: rest => s.turn net m :: turns net (s.step net m) rest

theorem seat_roster (net : Fabric σ) (s : Holdings σ) (index : Nat) :
    (s.roster net).seats[index]? = s.holders[index]?.map (seat net) :=
  List.getElem?_map

/-- A connect keeps its links apart from the contexts. -/
theorem obtain_roster {α : Type} (net : Fabric σ) (s : Holdings σ) (links : α → List Link)
    (r : Outcome α × World σ) :
    (s.obtain links r).roster net = { s.roster net with world := r.2 } := by
  obtain ⟨a | e | p | _, after⟩ := r <;> rfl

theorem atHolder_roster (net : Fabric σ) (s : Holdings σ) (index : Nat)
    (work : Seat σ Link → World σ → Context Link × World σ) :
    (s.atHolder index fun h w => work (seat net h) w).roster net =
      (s.roster net).atSeat index work := by
  rw [atHolder, Roster.atSeat, seat_roster]
  cases s.holders[index]? with
  | none => rfl
  | some h => simp [roster, seat, List.map_set]

theorem dropContext_roster (net : Fabric σ) (s : Holdings σ) (index : Nat) :
    (s.dropContext net index).roster net = (s.roster net).drop index := by
  rw [dropContext, Roster.drop, seat_roster]
  cases s.holders[index]? with
  | none => rfl
  | some h => simp [roster, seat, List.eraseIdx_map]

/-- Forgetting the links turns a move into a turn of the roster, so what is known of rosters
holds here. -/
theorem step_roster (net : Fabric σ) (s : Holdings σ) (m : Move σ) :
    (s.step net m).roster net = (s.roster net).step (s.turn net m) := by
  cases m with
  | connect c way => exact obtain_roster net s _ (way.go net c s.world)
  | connectAll c limit => exact obtain_roster net s _ (c.connectAll net limit s.world)
  | deed index d =>
    rw [step, atLink, turn]
    cases s.links[index]? with
    | none => rfl
    | some l => rfl
  | drop index =>
    rw [step, drop, turn]
    cases s.links[index]? with
    | none => rfl
    | some l => rfl
  | newContext c strategy => simp [step, turn, Roster.step, roster, seat]
  | enter index =>
    exact atHolder_roster net s index fun seat w => (seat.context.enter seat.connector w).2
  | deedHeld index d =>
    exact atHolder_roster net s index fun seat w =>
      (seat.context.use (fun l => l.perform net d) (.done ()) w).2
  | exit index =>
    exact atHolder_roster net s index fun seat w => (seat.context.exit seat.connector w).2
  | scope index leak deeds ending =>
    exact atHolder_roster net s index fun seat w =>
      (seat.context.bracket seat.connector leak (Link.body net deeds ending) w).2
  | run index deeds ending =>
    exact atHolder_roster net s index fun seat w =>
      (seat.context.bracket seat.connector false (Link.body net deeds ending) w).2
  | dropContext index => exact dropContext_roster net s index
  | outside state process => rfl

/-- By induction on the moves, from `step_roster`. -/
theorem run_roster (net : Fabric σ) (s : Holdings σ) (moves : List (Move σ)) :
    (s.run net moves).roster net = (s.roster net).run (s.turns net moves) := by
  induction moves generalizing s with
  | nil => rfl
  | cons m rest ih =>
    have others := ih (s.step net m)
    rw [step_roster] at others
    exact others

/-- The contexts with a label that hold a link. -/
def entered (label : Strategy.Label) (s : Holdings σ) : Nat :=
  s.holders.countP fun h => h.context.holds label

theorem holding_roster (net : Fabric σ) (label : Strategy.Label) (s : Holdings σ) :
    (s.roster net).holding label = s.entered label :=
  List.countP_map

/-- After every run over every network, acquisitions less releases are the links that are
held by contexts and those that went with one. -/
theorem run_gauge (net : Fabric σ) (state : σ) (process : ProcessEnvironment)
    (label : Strategy.Label) (moves : List (Move σ)) :
    ((start state process).run net moves).world.journal.gauge label =
      ((start state process).run net moves).entered label +
        Roster.abandoned label ((start state process).roster net)
          ((start state process).turns net moves) := by
  have nothing : ((start state process).roster net).slack label = 0 := rfl
  have whole := Roster.run_slack label ((start state process).roster net)
    ((start state process).turns net moves)
  rw [← run_roster, nothing, Roster.slack_eq_sub_holding, holding_roster] at whole
  have same : (((start state process).run net moves).roster net).world =
      ((start state process).run net moves).world := rfl
  rw [same] at whole
  omega

end Holdings
end Tether
