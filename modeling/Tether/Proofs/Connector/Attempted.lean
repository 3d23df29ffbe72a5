import Tether.Proofs.Context.Entry
import Tether.Proofs.Endpoint
import Tether.Proofs.Environment.Port

/-!
# Which endpoint an error names

Two kinds of error name an endpoint, and they do so by its text alone: a connect that took too
long, and attempts that were given up. Both come from dialling the endpoint, and a connect that
fails before it dials anything comes to neither. As no two endpoints have one text, whoever is
handed the error knows which endpoint was dialled last.
-/
namespace Tether

variable {σ α : Type}

/-- The texts of endpoints in an error and in those behind it. -/
def Error.endpoints : Error → List String
  | connectTimeout s _ => [s]
  | attemptsExhausted s _ source => s :: source.endpoints
  | _ => []

/-- The text is that of the endpoint which was dialled behind some other dials, once or
several times, and that of no other endpoint. -/
def Pinned (s : String) (before after : List (Kind × Endpoint)) : Prop :=
  ∃ kind endpoint n, after = before ++ List.replicate (n + 1) (kind, endpoint) ∧
    ∀ other : Endpoint, other.text = s ↔ other = endpoint

/-- If a connect fails, every text in its error is of the endpoint that was dialled. -/
def Tells (before : List (Kind × Endpoint)) (r : Outcome α × World σ) : Prop :=
  ∀ e, r.1 = .failed e → ∀ s ∈ e.endpoints, Pinned s before r.2.journal.dials

/-- The text of an endpoint is enough to tell it from all others. -/
theorem text_eq_iff (endpoint other : Endpoint) : other.text = endpoint.text ↔ other = endpoint :=
  Endpoint.text_injective.eq_iff

/-- An error that names nothing tells nothing wrong. -/
theorem tells_of_nameless (before : List (Kind × Endpoint)) (e : Error) (w : World σ)
    (nameless : e.endpoints = []) : Tells before ((.failed e : Outcome α), w) := by
  intro e' failed s found
  rw [← Outcome.failed.inj failed, nameless] at found
  cases found

/-- What was dialled and what the error says are no matter of the logs. -/
theorem Tells.of_alike {before : List (Kind × Endpoint)} {r r' : Outcome α × World σ}
    (h : Tells before r) (same : Alike r' r) : Tells before r' := by
  intro e failed s found
  rw [same.dials]
  exact h e (same.outcome ▸ failed) s found

/-- Of the network's answers only the timeout names an endpoint, and it is the one that was
dialled. -/
theorem transport_connect_endpoints (net : Fabric σ) (endpoint : Endpoint)
    (timeout : Option Duration) (w : World σ) (e : Error)
    (failed : (Transport.connect net endpoint timeout w).1 = .failed e) :
    ∀ s ∈ e.endpoints, s = endpoint.text := by
  unfold Transport.connect at failed
  split at failed
  · cases failed
  · cases failed
    simp [Error.endpoints]
  · split at failed
    · cases failed
      simp [Error.endpoints]
    · cases failed

namespace Link

/-- The error of a failed connect names its endpoint or nothing. -/
theorem outcome_endpoints (kind : Kind) (endpoint : Endpoint) (config : Config) (r : Reply)
    (e : Error) (failed : outcome kind endpoint config r = .failed e) :
    ∀ s ∈ e.endpoints, s = endpoint.text := by
  cases r with
  | connected socket => cases failed
  | failed fault =>
    cases failed
    simp [Error.endpoints]
  | silent =>
    unfold outcome at failed
    cases timeout : config.connectTimeout with
    | none =>
      rw [timeout] at failed
      cases failed
    | some limit =>
      rw [timeout] at failed
      cases failed
      simp [Error.endpoints]

/-- The attempts name their endpoint, and so does the last of them. -/
theorem connectDaemonTo_endpoints (net : Fabric σ) (endpoint : Endpoint) (config : Config)
    (w : World σ) (e : Error) (failed : (connectDaemonTo net config endpoint w).1 = .failed e) :
    ∀ s ∈ e.endpoints, s = endpoint.text := by
  obtain ⟨last, rfl, cause⟩ := (connectDaemonTo_bounded net endpoint config w).failure e failed
  rcases cause with ⟨fault, rfl⟩ | ⟨limit, -, rfl⟩ <;> simp [Error.endpoints]

end Link

namespace NetworkConnector

open Environment Link

theorem connectTo_endpoints (net : Fabric σ) (c : NetworkConnector) (s : Selection) (w : World σ)
    (e : Error) (failed : (c.connectTo net s w).1 = .failed e) :
    ∀ t ∈ e.endpoints, t = (s.peer c.config).text := by
  have once : ∀ kind endpoint, (connect net kind endpoint c.config w).1 = .failed e →
      ∀ t ∈ e.endpoints, t = endpoint.text := by
    intro kind endpoint answer
    rw [connect_eq_of_reply] at answer
    exact outcome_endpoints kind endpoint c.config _ e answer
  cases s with
  | daemon endpoint => exact connectDaemonTo_endpoints net endpoint c.config w e failed
  | hardware ip => exact once .arq ⟨ip, c.config.arqPort⟩ failed
  | simulation endpoint => exact once .sim endpoint failed

/-- A backend that is not reached was dialled at least once, and nothing else was. -/
theorem connectTo_tells (net : Fabric σ) (c : NetworkConnector) (s : Selection) (w : World σ) :
    Tells w.journal.dials (c.connectTo net s w) := by
  intro e failed t found
  obtain ⟨n, positive, -, dialled⟩ := (connectTo_reaches net c s w).1
  obtain ⟨m, rfl⟩ := Nat.exists_eq_add_of_le' positive
  refine ⟨s.kind, s.peer c.config, m, dialled, fun other => ?_⟩
  rw [connectTo_endpoints net c s w e failed t found]
  exact text_eq_iff _ other

/-- A call that leads nowhere fails by a fault of the environment or of its arguments. -/
theorem aim_error_endpoints (env : Environment) (call : Call) (e : Error)
    (nowhere : call.aim env = .error e) : e.endpoints = [] := by
  cases call with
  | fromEnvironment =>
    have fault := select_within env
    rw [show env.select = .error e from nowhere] at fault
    obtain ⟨fault, rfl⟩ := fault
    rfl
  | arq =>
    rw [Call.aim] at nowhere
    cases listed : env.fpgaIp with
    | ok ip =>
      rw [listed] at nowhere
      cases nowhere
    | error e' =>
      rw [listed] at nowhere
      obtain ⟨fault, rfl⟩ := fpgaIp_error env e' listed
      cases nowhere
      rfl
  | arqTo ip => cases nowhere
  | sim =>
    rw [Call.aim] at nowhere
    cases setting : env.simulator with
    | ok endpoint =>
      rw [setting] at nowhere
      cases nowhere
    | error e' =>
      rw [setting] at nowhere
      have address : env.Addressed Variable.simHost Variable.simPort env.simulator :=
        addressed env _ _ _
      obtain ⟨fault, rfl⟩ := address.faults e' setting
      cases nowhere
      rfl
  | simTo host port =>
    cases host <;> cases port <;> cases nowhere <;> rfl

/-- Answering a call that leads to a backend is a connect to it, up to logs. -/
theorem answer_alike (net : Fabric σ) (c : NetworkConnector) (call : Call) (w : World σ)
    (s : Selection) (leads : call.aim (c.environment w) = .ok s) :
    Alike (c.answer net call w) (c.connectTo net s w) := by
  have plain : approach net c.config call (.ok s) w = connectTo net { config := c.config } s w →
      Alike (c.answer net call w) (c.connectTo net s w) := by
    intro same
    rw [answer_eq_approach, leads, same, connectTo_config]
    exact ⟨rfl, rfl, rfl, rfl, rfl, fun _ => rfl⟩
  cases call with
  | fromEnvironment => exact connectSelected_alike net c w s leads
  | _ => exact plain rfl

/-- A call that leads nowhere fails by an error that names no endpoint. -/
theorem answer_tells (net : Fabric σ) (c : NetworkConnector) (call : Call) (w : World σ) :
    Tells w.journal.dials (c.answer net call w) := by
  cases aim : call.aim (c.environment w) with
  | error e =>
    have refused : c.answer net call w = (.failed e, w) := by
      rw [answer_eq_approach, aim]
      rfl
    rw [refused]
    exact tells_of_nameless _ e w (aim_error_endpoints _ call e aim)
  | ok s => exact (connectTo_tells net c s w).of_alike (answer_alike net c call w s aim)

theorem daemon_error (env : Environment) (e : Error) (h : env.daemon = .error e) :
    ∃ fault, e = .environment fault := by
  cases enabled : env.get Variable.daemonEnabled with
  | none =>
    rw [daemon_of_disabled env enabled] at h
    cases h
  | some value =>
    rw [daemon_of_enabled env ((tier_eq_daemon_iff env).mpr ⟨value, enabled⟩)] at h
    cases listens : env.daemonEndpoint with
    | ok endpoint =>
      rw [listens] at h
      cases h
    | error e' =>
      rw [listens] at h
      obtain ⟨fault, rfl⟩ := daemonEndpoint_error env e' listens
      cases h
      exact ⟨fault, rfl⟩

/-- Where the environment has no daemon the error names no endpoint. -/
theorem connectDaemon_tells (net : Fabric σ) (c : NetworkConnector) (env : Environment)
    (w : World σ) : Tells w.journal.dials (connectDaemon net c.config env w) := by
  unfold connectDaemon
  split
  next e broken =>
    obtain ⟨fault, rfl⟩ := daemon_error env e broken
    exact tells_of_nameless _ _ w rfl
  next => exact tells_of_nameless _ _ w rfl
  next endpoint _ => exact connectTo_tells net c (.daemon endpoint) w

/-- The backend that stops a list is the last one that is dialled for it. -/
theorem connectAll_tells (net : Fabric σ) (c : NetworkConnector) (limit : Option Nat)
    (w : World σ) :
    ∃ earlier, Tells (w.journal.dials ++ earlier) (c.connectAll net limit w) := by
  cases selected : (c.environment w).selectAll limit with
  | error e =>
    have fault := selectAll_within (c.environment w) limit
    rw [selected] at fault
    obtain ⟨fault, rfl⟩ := fault
    rw [connectAll, selected]
    exact ⟨[], tells_of_nameless _ _ w rfl⟩
  | ok selections =>
    rcases opens_or_stops net c selections w with ⟨ls, after, opens⟩ |
      ⟨before, s, rest, ls, answer, after, rfl, stops⟩
    · rw [connectAll_of_opens limit selected opens]
      exact ⟨[], fun e failed => (by cases failed)⟩
    · obtain ⟨middle, opens, stopped⟩ := stops.opens
      obtain ⟨earlier, -, dialled⟩ := opens.dials
      have told := connectTo_tells net c s middle
      rw [stopped, dialled] at told
      rw [connectAll_of_stops limit selected stops]
      refine ⟨earlier, fun e failed t found => ?_⟩
      rw [releaseAll_dials]
      cases answer with
      | failed e' =>
        obtain rfl : e' = e := Outcome.failed.inj failed
        exact told e' rfl t found
      | _ => cases failed

/-- What an entry adds around its connect dials nothing. -/
theorem entry_tells (net : Fabric σ) (c : NetworkConnector) (ctx : Context Link) (w : World σ) :
    Tells w.journal.dials
      ((Context.entry net c ctx w).1.1, (Context.entry net c ctx w).2) := by
  obtain ⟨s, _ | l⟩ := ctx
  · have told := answer_tells net c s.call (w.emit (.began (.entering s)))
    rw [Context.entry_of_empty, Context.acquire, World.within_eq, connector]
    intro e failed t found
    rw [Context.settle_result] at failed
    rw [Context.settle_dials, World.emit_journal, Context.dials_ended]
    have pinned := told e failed t found
    rwa [World.emit_journal, Context.dials_entering] at pinned
  · rw [Context.entry, Context.enter_of_held _ _ w l rfl]
    exact tells_of_nameless _ _ w rfl

/-- What the errors of connects say about where they were made to. -/
structure Told (net : Fabric σ) (c : NetworkConnector) (w : World σ) : Prop where
  transport : ∀ endpoint timeout e, (Transport.connect net endpoint timeout w).1 = .failed e →
    ∀ s ∈ e.endpoints, ∀ other : Endpoint, other.text = s ↔ other = endpoint
  backend : ∀ s, Tells w.journal.dials (c.connectTo net s w)
  call : ∀ call, Tells w.journal.dials (c.answer net call w)
  daemon : ∀ env, Tells w.journal.dials (connectDaemon net c.config env w)
  list : ∀ limit, ∃ earlier, Tells (w.journal.dials ++ earlier) (c.connectAll net limit w)
  entry : ∀ ctx, Tells w.journal.dials
    ((Context.entry net c ctx w).1.1, (Context.entry net c ctx w).2)

/-- The text of an endpoint is read back as the endpoint, whatever its host; so the text that a
failed connect leaves in its error is that of the endpoint it dialled last, and of no other. -/
theorem endpoint_told_by_text :
    (∀ e : Endpoint, Endpoint.read? e.text = some e) ∧
    Function.Injective Endpoint.text ∧
    ∀ {σ : Type} (net : Fabric σ) (c : NetworkConnector) (w : World σ), Told net c w := by
  refine ⟨Endpoint.read?_text, Endpoint.text_injective, fun net c w => ?_⟩
  refine
    { transport := fun endpoint timeout e failed s found other => ?_
      backend := fun s => connectTo_tells net c s w
      call := fun call => answer_tells net c call w
      daemon := fun env => connectDaemon_tells net c env w
      list := fun limit => connectAll_tells net c limit w
      entry := fun ctx => entry_tells net c ctx w }
  rw [transport_connect_endpoints net endpoint timeout w e failed s found]
  exact text_eq_iff endpoint other

/-- The daemon's host looks like an endpoint, and the last attempt on it was never answered. -/
example :
    let c : NetworkConnector := { config := { attemptsMax := 2, connectTimeout := some .zero } }
    let net := playing fun
      | 0 => .failed .refused
      | _ => .silent
    (c.connectTo net (.daemon ⟨"a:1", 2⟩) { net := 0 }).1 =
      .failed (.attemptsExhausted "a:1:2" 2 (.connectTimeout "a:1:2" .zero)) := by
  cbv

end NetworkConnector
end Tether
