import Tether.Proofs.Connector.List
import Tether.Proofs.Environment.Precedence
import Tether.Proofs.Link.Detached

/-!
# Where a call leads

A call of the connector leads to one backend or to a fault. The environment has a say in
that for three of the five calls, and only there: once the aim is known, the rest is a
connect to the backend, which hears the network alone. Connecting as the environment
selects has the same aim as the call made for the selected kind, so the two differ in
what they log about the selection and in nothing else.
-/
namespace Tether

variable {σ α β : Type}

/-- The backend that a call leads to in an environment. -/
def Call.aim (env : Environment) : Call → Except Error Selection
  | fromEnvironment => env.select
  | arq => env.fpgaIp.map .hardware
  | arqTo ip => .ok (.hardware ip)
  | sim => env.simulator.map .simulation
  | simTo (some host) (some port) => .ok (.simulation ⟨host, port⟩)
  | simTo host port => .error (.config (.incompleteSimulator host port))

namespace Environment

/-- A backend is only ever selected out of the tier that decides. -/
theorem tier_of_select (env : Environment) (s : Selection) (h : env.select = .ok s) :
    env.tier = s.tier := by
  have within := select_within env
  rw [h] at within
  exact (within s (List.mem_singleton.mpr rfl)).symm

/-- The selection and the connect made for hardware alone read the same address. -/
theorem fpgaIp_of_select (env : Environment) (ip : String) (h : env.select = .ok (.hardware ip)) :
    env.fpgaIp = .ok ip := by
  rw [select_of_hardware env (tier_of_select env _ h)] at h
  cases listed : env.fpgaIp with
  | error e => rw [listed] at h; cases h
  | ok found =>
    rw [listed] at h
    rw [Selection.hardware.inj (Except.ok.inj h)]

theorem simulator_of_select (env : Environment) (endpoint : Endpoint)
    (h : env.select = .ok (.simulation endpoint)) : env.simulator = .ok endpoint := by
  rw [select_of_simulation env (tier_of_select env _ h), simulated] at h
  rw [simulator]
  cases setting : env.get Variable.simPort with
  | none => rw [setting] at h; cases h
  | some value =>
    rw [setting] at h
    dsimp only at h ⊢
    cases listens : Environment.endpoint (env.get Variable.simHost) Variable.simPort value with
    | error e => rw [listens] at h; cases h
    | ok found =>
      rw [listens] at h
      rw [Selection.simulation.inj (Except.ok.inj h)]

theorem daemon_of_select (env : Environment) (endpoint : Endpoint)
    (h : env.select = .ok (.daemon endpoint)) : env.daemon = .ok (some endpoint) := by
  have tier := tier_of_select env _ h
  rw [select_of_daemon env tier] at h
  rw [daemon_of_enabled env tier]
  cases listens : env.daemonEndpoint with
  | error e => rw [listens] at h; cases h
  | ok found =>
    rw [listens] at h
    rw [Selection.daemon.inj (Except.ok.inj h)]
    rfl

/-- A single selection that succeeds is the whole list. -/
theorem selectAll_of_select (env : Environment) (s : Selection) (h : env.select = .ok s) :
    env.selectAll none = .ok [s] := by
  have one : ¬env.Several := fun several => by
    rw [select_of_several env several] at h
    cases h
  rw [selectAll_eq_select env one, h]
  rfl

end Environment

namespace NetworkConnector

open Environment

/-- What is done about a call once its aim is known. A selection by the environment is
reported, and connected to within a span of its own. -/
def approach (net : Fabric σ) (config : Config) (call : Call) (aim : Except Error Selection)
    (w : World σ) : Outcome Link × World σ :=
  match aim with
  | .error e => (.failed e, w)
  | .ok s =>
    match call with
    | .fromEnvironment =>
      (w.notify (.selected s)).within .connectingSelected (connectTo net { config } s)
    | _ => connectTo net { config } s w

/-- Connecting to a known backend depends on the settings and not on the environment. -/
theorem connectTo_config (net : Fabric σ) (c : NetworkConnector) (s : Selection) :
    connectTo net { config := c.config } s = c.connectTo net s := by
  cases s <;> rfl

/-- The environment is read for the aim, and nothing behind it hears it again. -/
theorem answer_eq_approach (net : Fabric σ) (c : NetworkConnector) (call : Call) (w : World σ) :
    c.answer net call w = approach net c.config call (call.aim (c.environment w)) w := by
  cases call with
  | fromEnvironment =>
    rw [answer, connectSelected, Call.aim]
    cases (c.environment w).select with
    | error e => rfl
    | ok s =>
      exact congrArg ((w.notify (.selected s)).within .connectingSelected)
        (connectTo_config net c s).symm
  | arq =>
    rw [answer, Link.connectArq, Call.aim]
    cases (c.environment w).fpgaIp with
    | error e => rfl
    | ok ip => rfl
  | arqTo ip => rfl
  | sim =>
    rw [answer, Link.connectSim, Call.aim]
    cases (c.environment w).simulator with
    | error e => rfl
    | ok endpoint => rfl
  | simTo host port => cases host <;> cases port <;> rfl

/-- Once the aim is known the environment of the process has no say. -/
theorem approach_detached (net : Fabric σ) (config : Config) (call : Call)
    (aim : Except Error Selection) : World.Detached (approach net config call aim) := by
  cases aim with
  | error e => exact fun s => ⟨.failed e, s, [], fun _ _ => rfl⟩
  | ok s =>
    have connects := connectTo_detached net { config } s
    cases call with
    | fromEnvironment => exact (connects.within .connectingSelected).emit (.notice (.selected s))
    | _ => exact connects

end NetworkConnector

/-- Two results of work in one world that may differ in what was logged, and in nothing
else: the network was asked the same, and what was dialled, waited and counted agrees. -/
structure Alike (r r' : Outcome α × World σ) : Prop where
  outcome : r.1 = r'.1
  net : r.2.net = r'.2.net
  process : r.2.process = r'.2.process
  dials : r.2.journal.dials = r'.2.journal.dials
  waits : r.2.journal.waits = r'.2.journal.waits
  totals : ∀ m, r.2.journal.total m = r'.2.journal.total m

theorem Alike.map {r r' : Outcome α × World σ} (h : Alike r r') (f : α → β) :
    Alike (r.1.map f, r.2) (r'.1.map f, r'.2) :=
  ⟨congrArg (Outcome.map f) h.outcome, h.net, h.process, h.dials, h.waits, h.totals⟩

namespace NetworkConnector

open Environment

/-- Reporting the selection and the span around the connect are all that is added to it. -/
theorem connectSelected_alike (net : Fabric σ) (c : NetworkConnector) (w : World σ)
    (s : Selection) (selected : (c.environment w).select = .ok s) :
    Alike (c.connectSelected net w) (c.connectTo net s w) := by
  obtain ⟨result, after, events, same⟩ := connectTo_detached net c s w.net
  let reported : Journal := [.began .connectingSelected, .notice (.selected s)]
  have plain : c.connectTo net s w = (result, ⟨after, w.process, events ++ w.journal⟩) :=
    same w.process w.journal
  have logged : c.connectSelected net w =
      (result, ⟨after, w.process, .ended :: (events ++ (reported ++ w.journal))⟩) := by
    have inside := same w.process (reported ++ w.journal)
    rw [connectSelected, selected]
    dsimp only
    rw [World.within_eq]
    exact congrArg (fun r : Outcome Link × World σ => (r.1, r.2.emit .ended)) inside
  rw [plain, logged]
  refine ⟨rfl, rfl, rfl, ?_, ?_, fun m => ?_⟩
  · simp [reported, Journal.dials, Journal.seen_cons, Journal.seen_append]
  · simp [reported, Journal.waits, Journal.seen_cons, Journal.seen_append]
  · simp [reported, Journal.total]

/-- A list of one backend is connected to as the backend alone. -/
theorem connectAll_of_select (net : Fabric σ) (c : NetworkConnector) (w : World σ)
    (s : Selection) (selected : (c.environment w).select = .ok s) :
    c.connectAll net none w =
      ((c.connectTo net s w).1.map fun l => [l], (c.connectTo net s w).2) := by
  rw [connectAll_of_selected net c none w [s] (selectAll_of_select _ s selected), connectEach]
  obtain ⟨l | e | p | _, after⟩ := c.connectTo net s w
  all_goals rfl

/-- Connecting as the environment selects, beside the connects made for a single kind. -/
structure Dedicated (net : Fabric σ) (c : NetworkConnector) (w : World σ) : Prop where
  hardware : ∀ ip, (c.environment w).select = .ok (.hardware ip) →
    Alike (c.answer net .fromEnvironment w) (c.answer net .arq w)
  simulation : ∀ endpoint, (c.environment w).select = .ok (.simulation endpoint) →
    Alike (c.answer net .fromEnvironment w) (c.answer net .sim w)
  daemon : ∀ endpoint, (c.environment w).select = .ok (.daemon endpoint) →
    Alike (c.answer net .fromEnvironment w)
      (Link.connectDaemon net c.config (c.environment w) w)
  /-- The error of the selection comes out, and nothing at all is done. -/
  refused : ∀ e, (c.environment w).select = .error e →
    c.answer net .fromEnvironment w = (.failed e, w)
  /-- A list without a limit is this one connection, or its failure. -/
  listed : ∀ s, (c.environment w).select = .ok s →
    Alike ((c.answer net .fromEnvironment w).1.map fun l => [l],
        (c.answer net .fromEnvironment w).2)
      (c.connectAll net none w)

/-- In every environment and over every network, connecting as the environment selects is
the connect made for the selected kind, up to logs. -/
theorem selected_as_dedicated (net : Fabric σ) (c : NetworkConnector) (w : World σ) :
    Dedicated net c w where
  hardware ip selected := by
    have alone : c.answer net .arq w = c.connectTo net (.hardware ip) w := by
      rw [answer, Link.connectArq, fpgaIp_of_select _ ip selected]
      rfl
    rw [alone]
    exact connectSelected_alike net c w (.hardware ip) selected
  simulation endpoint selected := by
    have alone : c.answer net .sim w = c.connectTo net (.simulation endpoint) w := by
      rw [answer, Link.connectSim, simulator_of_select _ endpoint selected]
      rfl
    rw [alone]
    exact connectSelected_alike net c w (.simulation endpoint) selected
  daemon endpoint selected := by
    have alone : Link.connectDaemon net c.config (c.environment w) w =
        c.connectTo net (.daemon endpoint) w := by
      rw [Link.connectDaemon, daemon_of_select _ endpoint selected]
      rfl
    rw [alone]
    exact connectSelected_alike net c w (.daemon endpoint) selected
  refused e failed := by
    rw [answer, connectSelected, failed]
  listed s selected := by
    rw [connectAll_of_select net c w s selected]
    exact (connectSelected_alike net c w s selected).map fun l => [l]

/-- The environment names an FPGA, which is dialled once either way. -/
example :
    let c : NetworkConnector := { env := some ⟨[(Variable.fpgaIps, "a")]⟩ }
    let net := Link.playing fun _ => .failed .refused
    (c.answer net .fromEnvironment { net := 0 }).2.journal.dials = [(.arq, ⟨"a", 1234⟩)] ∧
      (c.answer net .arq { net := 0 }).2.journal.dials = [(.arq, ⟨"a", 1234⟩)] := by
  cbv

end NetworkConnector
end Tether
