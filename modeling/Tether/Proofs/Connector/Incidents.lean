import Tether.Proofs.Connector.Aim
import Tether.Proofs.Holdings
import Tether.Proofs.Link.Incidents

/-!
# Incidents of connectors and contexts

A connector has the incidents of the backend that its call leads to; where the call leads
to a fault instead, nothing is dialled and there is none. A list of backends has those of
each that is dialled, and a context those of its connector and, in a scope, of what its
body does with the handle. What contexts count of their own is something else.
-/
namespace Tether

variable {σ α : Type}

def Selection.incidents (net : Fabric σ) (config : Config) (s : Selection) (state : σ) :
    List Incident :=
  Link.mishaps net s.kind (s.peer config) config (s.tries config) state

/-- A fault in the aim is no incident: nothing is dialled. -/
def Incident.ofAim (net : Fabric σ) (config : Config) (state : σ) :
    Except Error Selection → List Incident
  | .ok s => s.incidents net config state
  | .error _ => []

namespace NetworkConnector

/-- Connecting to a backend counts the incidents of its attempts, which are all made to one
endpoint. -/
theorem connectTo_tallied (net : Fabric σ) (c : NetworkConnector) (s : Selection)
    (w : World σ) :
    Tallied w.journal (c.connectTo net s w).2.journal (s.incidents net c.config w.net) := by
  cases s with
  | daemon endpoint =>
    have positive : 1 ≤ c.config.limit := Nat.le_max_left 1 _
    have one : (1 : UInt64).toNat = 1 := rfl
    have attempted := Link.attempt_tallied net c.config endpoint (c.config.limit - 1) 1 w
      (by omega)
    rw [Nat.sub_add_cancel positive] at attempted
    exact attempted
  | hardware ip => exact Link.connect_tallied net .arq ⟨ip, c.config.arqPort⟩ c.config w
  | simulation endpoint => exact Link.connect_tallied net .sim endpoint c.config w

/-- A call counts the incidents of its aim. One without an aim, for a fault of the
environment or of its arguments, counts none. -/
theorem answer_tallied (net : Fabric σ) (c : NetworkConnector) (call : Call) (w : World σ) :
    Tallied w.journal (c.answer net call w).2.journal
      (Incident.ofAim net c.config w.net (call.aim (c.environment w))) := by
  rw [answer_eq_approach]
  cases call.aim (c.environment w) with
  | error e => exact .refl w.journal
  | ok s =>
    have connects := connectTo_tallied net { config := c.config } s
    cases call with
    | fromEnvironment =>
      have inside := connects ((w.notify (.selected s)).emit (.began .connectingSelected))
      exact ((inside.after rfl).after rfl).cons rfl
    | _ => exact connects w

/-- The incidents of connecting to backends in order, each in the world that the one before
left, for as long as they succeed. -/
def listIncidents (net : Fabric σ) (c : NetworkConnector) :
    List Selection → World σ → List Incident
  | [], _ => []
  | s :: rest, w =>
    s.incidents net c.config w.net ++
      match c.connectTo net s w with
      | (.done _, after) => c.listIncidents net rest after
      | _ => []

/-- Dropping the links that were opened before a failure is no incident. -/
theorem connectEach_tallied (net : Fabric σ) (c : NetworkConnector)
    (selections : List Selection) (opened : List Link) (w : World σ) :
    Tallied w.journal (c.connectEach net selections opened w).2.journal
      (c.listIncidents net selections w) := by
  induction selections generalizing opened w with
  | nil => exact .refl w.journal
  | cons s rest ih =>
    have first := connectTo_tallied net c s w
    unfold connectEach listIncidents
    generalize c.connectTo net s w = answer at first ⊢
    obtain ⟨l | e | p | _, after⟩ := answer
    · exact first.trans (ih (opened ++ [l]) after)
    all_goals exact first.trans (Link.releaseAll_tallied net opened after)

/-- The incidents of connecting to all that the environment offers. -/
def allIncidents (net : Fabric σ) (c : NetworkConnector) (limit : Option Nat) (w : World σ) :
    List Incident :=
  match (c.environment w).selectAll limit with
  | .error _ => []
  | .ok selections => c.listIncidents net selections w

/-- A list that cannot be selected at all counts nothing. -/
theorem connectAll_tallied (net : Fabric σ) (c : NetworkConnector) (limit : Option Nat)
    (w : World σ) :
    Tallied w.journal (c.connectAll net limit w).2.journal (c.allIncidents net limit w) := by
  unfold connectAll allIncidents
  cases (c.environment w).selectAll limit with
  | error e => exact .refl w.journal
  | ok selections => exact connectEach_tallied net c selections [] w

end NetworkConnector

/-- The incidents of deeds in order, each in the world that the one before left. -/
def Link.allIncidents (net : Fabric σ) : List Link.Deed → Link → World σ → List Incident
  | [], _, _ => []
  | d :: rest, l, w =>
    d.incidents net l w ++ allIncidents net rest (l.perform net d w).2.1 (l.perform net d w).2.2

/-- Each deed finds the world that the one before it left, so the incidents of a body add
up. -/
theorem Link.performAll_tallied (net : Fabric σ) (deeds : List Link.Deed) (l : Link)
    (w : World σ) :
    Tallied w.journal (l.performAll net deeds w).2.journal (l.allIncidents net deeds w) := by
  induction deeds generalizing l w with
  | nil => exact .refl w.journal
  | cons d rest ih => exact (perform_tallied net d l w).trans (ih _ _)

namespace Context

/-- The incidents of entering a context: none if it is entered already. -/
def entryIncidents (net : Fabric σ) (c : NetworkConnector) (ctx : Context Link) (w : World σ) :
    List Incident :=
  match ctx.held with
  | some _ => []
  | none => Incident.ofAim net c.config w.net (ctx.strategy.call.aim (c.environment w))

/-- The incidents of a scope or a run: those of the entry, and then of the body. -/
def bracketIncidents (net : Fabric σ) (c : NetworkConnector) (deeds : List Link.Deed)
    (ctx : Context Link) (w : World σ) : List Incident :=
  ctx.entryIncidents net c w ++
    match ctx.enter (c.connector net) w with
    | (.done l, _, after) => l.allIncidents net deeds after
    | _ => []

variable (net : Fabric σ) (c : NetworkConnector)

theorem acquire_tallied (ctx : Context Link) (w : World σ) :
    Tallied w.journal (ctx.acquire (c.connector net) w).2.journal
      (Incident.ofAim net c.config w.net (ctx.strategy.call.aim (c.environment w))) := by
  have answered := NetworkConnector.answer_tallied net c ctx.strategy.call
    (w.emit (.began (.entering ctx.strategy)))
  exact (answered.after rfl).cons rfl

/-- A context that is entered already asks for nothing, so nothing can go wrong on the
network. -/
theorem enter_tallied (ctx : Context Link) (w : World σ) :
    Tallied w.journal (ctx.enter (c.connector net) w).2.2.journal
      (ctx.entryIncidents net c w) := by
  unfold entryIncidents
  cases held : ctx.held with
  | some l =>
    rw [enter_of_held _ ctx w l held]
    exact .refl w.journal
  | none =>
    have acquired := acquire_tallied net c ctx w
    rw [enter_of_empty _ ctx w held]
    generalize ctx.acquire (c.connector net) w = answer at acquired ⊢
    obtain ⟨l | e | p | _, after⟩ := answer
    · exact (acquired.cons rfl).cons rfl
    all_goals exact acquired

theorem part_tallied (ctx : Context Link) (l : Link) (w : World σ) :
    Tallied w.journal (ctx.part (c.connector net) l w).journal [] :=
  ((Link.release_tallied net l w).cons rfl).cons rfl

theorem exit_tallied (ctx : Context Link) (w : World σ) :
    Tallied w.journal (ctx.exit (c.connector net) w).2.2.journal [] := by
  cases held : ctx.held with
  | none =>
    rw [exit_of_empty _ ctx w held]
    exact .refl w.journal
  | some l =>
    rw [exit_of_held _ ctx w l held]
    exact part_tallied net c ctx l w

/-- Whether or not the guard is leaked, and however the body ends, a bracket counts the
incidents of its entry and of the deeds that were reached. -/
theorem bracket_tallied (leak : Bool) (deeds : List Link.Deed) (ending : Outcome α)
    (ctx : Context Link) (w : World σ) :
    Tallied w.journal
      (ctx.bracket (c.connector net) leak (Link.body net deeds ending) w).2.2.journal
      (ctx.bracketIncidents net c deeds w) := by
  have entered := enter_tallied net c ctx w
  unfold bracketIncidents bracket
  generalize ctx.enter (c.connector net) w = answer at entered ⊢
  obtain ⟨l | e | p | _, held, after⟩ := answer
  · have worked := Link.performAll_tallied net deeds l after
    dsimp only [Link.body]
    split
    · exact entered.trans worked
    · have parted := part_tallied net c { held with held := some (l.performAll net deeds after).1 }
        (l.performAll net deeds after).1 (l.performAll net deeds after).2
      rw [leave_of_held _ _ _ _ _ rfl]
      exact (entered.trans worked).trans_nil parted
  all_goals exact entered.trans (.refl after.journal)

theorem release_tallied (ctx : Context Link) (w : World σ) :
    Tallied w.journal (ctx.release (c.connector net) w).journal [] := by
  unfold release
  split
  · exact .refl w.journal
  next l _ => exact Link.release_tallied net l w

end Context
end Tether
