import Tether.Proofs.Connector.Aim
import Tether.Proofs.Context.Bracket

/-!
# What entering hears of the environment

Entering a context over the network connector goes in two steps: the strategy's call gets
its aim, and the aim is pursued. The environment is read in the first step and at most once;
the second hears the network alone, whatever becomes of the environment meanwhile. A
strategy that gives an address in full dials it once in every environment, one that gives
half a simulator address fails in every environment, and only the three strategies that
give no address come to different results in different environments.
-/
namespace Tether.Context

open Link NetworkConnector World

variable {σ : Type}

def entry (net : Fabric σ) (c : NetworkConnector) (ctx : Context Link) (w : World σ) :
    (Outcome Link × Context Link) × World σ :=
  (((ctx.enter (c.connector net) w).1, (ctx.enter (c.connector net) w).2.1),
    (ctx.enter (c.connector net) w).2.2)

/-- What an empty context makes of the connector's answer. -/
def settle (s : Strategy) (answer : Outcome Link) (w : World σ) :
    (Outcome Link × Context Link) × World σ :=
  match answer with
  | .done l =>
    ((.done l, { strategy := s, held := some l }), ({ strategy := s } : Context Link).accept w)
  | other => ((other, { strategy := s }), w)

/-- Enters an empty context whose strategy has a given aim. There is no environment left
that could be read. -/
def pursue (net : Fabric σ) (config : Config) (s : Strategy) (aim : Except Error Selection)
    (w : World σ) : (Outcome Link × Context Link) × World σ :=
  let r := w.within (.entering s) (approach net config s.call aim)
  settle s r.1 r.2

@[simp] theorem settle_result (s : Strategy) (answer : Outcome Link) (w : World σ) :
    (settle s answer w).1.1 = answer := by
  cases answer <;> rfl

@[simp] theorem settle_net (s : Strategy) (answer : Outcome Link) (w : World σ) :
    (settle s answer w).2.net = w.net := by
  cases answer <;> rfl

@[simp] theorem settle_dials (s : Strategy) (answer : Outcome Link) (w : World σ) :
    (settle s answer w).2.journal.dials = w.journal.dials := by
  cases answer <;> simp [settle, accept, count, notify, Journal.dials, Journal.seen_cons]

theorem settle_detached (s : Strategy) (answer : Outcome Link) :
    Detached (fun w : World σ => settle s answer w) := by
  intro state
  cases answer with
  | done l =>
    exact ⟨(.done l, { strategy := s, held := some l }), state,
      [.notice (.entered s), .count (.entered s.label)], fun _ _ => rfl⟩
  | failed e => exact ⟨(.failed e, { strategy := s }), state, [], fun _ _ => rfl⟩
  | panicked p => exact ⟨(.panicked p, { strategy := s }), state, [], fun _ _ => rfl⟩
  | pending => exact ⟨(.pending, { strategy := s }), state, [], fun _ _ => rfl⟩

theorem entry_of_empty (net : Fabric σ) (c : NetworkConnector) (s : Strategy) (w : World σ) :
    entry net c { strategy := s } w =
      settle s (({ strategy := s } : Context Link).acquire (c.connector net) w).1
        (({ strategy := s } : Context Link).acquire (c.connector net) w).2 := by
  rw [entry, enter_of_empty _ _ _ rfl]
  obtain ⟨l | e | p | _, after⟩ := acquire (c.connector net) ({ strategy := s } : Context Link) w
  all_goals rfl

/-- The environment is read for the aim, at the moment of the entry. -/
theorem entry_eq_pursue (net : Fabric σ) (c : NetworkConnector) (s : Strategy) (w : World σ) :
    entry net c { strategy := s } w =
      pursue net c.config s (s.call.aim (c.environment w)) w := by
  have answered := answer_eq_approach net c s.call (w.emit (.began (.entering s)))
  have read : c.environment (w.emit (.began (.entering s))) = c.environment w := rfl
  rw [entry_of_empty, acquire, pursue, within_eq, within_eq, connector]
  dsimp only
  rw [answered, read]

/-- Behind its aim an entry hears nothing but the network. -/
theorem pursue_detached (net : Fabric σ) (config : Config) (s : Strategy)
    (aim : Except Error Selection) : Detached (pursue net config s aim) := by
  have approached := (approach_detached net config s.call aim).within (.entering s)
  exact approached.bind (settle_detached s)

/-- Entries by a strategy come to the same in any two environments, fixed or those of a
process: the same result and context, the same network afterwards, and the same events. -/
def Unheard (net : Fabric σ) (config : Config) (s : Strategy) : Prop :=
  ∀ (env env' : Option Environment) (w w' : World σ), w.net = w'.net →
    ∃ result after events,
      entry net ⟨config, env⟩ { strategy := s } w =
        (result, ⟨after, w.process, events ++ w.journal⟩) ∧
      entry net ⟨config, env'⟩ { strategy := s } w' =
        (result, ⟨after, w'.process, events ++ w'.journal⟩)

/-- One aim for all environments means one course for all of them. -/
theorem unheard_of_aim (net : Fabric σ) (config : Config) (s : Strategy)
    (aim : Except Error Selection) (fixed : ∀ env, s.call.aim env = aim) :
    Unheard net config s := by
  intro env env' w w' same
  obtain ⟨result, after, events, run⟩ := pursue_detached net config s aim w.net
  refine ⟨result, after, events, ?_, ?_⟩
  · rw [entry_eq_pursue, fixed]
    exact run w.process w.journal
  · rw [entry_eq_pursue, fixed]
    rw [same] at run
    exact run w'.process w'.journal

/-- Entries by a strategy that dial one endpoint once, in every environment. -/
structure DialsOnce (net : Fabric σ) (config : Config) (s : Strategy) (kind : Kind)
    (endpoint : Endpoint) : Prop where
  unheard : Unheard net config s
  /-- The one reply of the network decides. -/
  result : ∀ env w, (entry net ⟨config, env⟩ { strategy := s } w).1.1 =
    outcome kind endpoint config (reply net endpoint config w.net)
  asked : ∀ env w, (entry net ⟨config, env⟩ { strategy := s } w).2.net =
    next net endpoint config w.net
  dials : ∀ env w, (entry net ⟨config, env⟩ { strategy := s } w).2.journal.dials =
    w.journal.dials ++ [(kind, endpoint)]
  held : ∀ env w l, (entry net ⟨config, env⟩ { strategy := s } w).1.1 = .done l →
    (entry net ⟨config, env⟩ { strategy := s } w).1.2.held = some l ∧
      l.kind = kind ∧ l.peer = endpoint ∧ l.state = .opened
  empty : ∀ env w, (∀ l, (entry net ⟨config, env⟩ { strategy := s } w).1.1 ≠ .done l) →
    (entry net ⟨config, env⟩ { strategy := s } w).1.2.held = none

theorem dials_ended (j : Journal) : Journal.dials (.ended :: j) = j.dials := by
  simp [Journal.dials, Journal.seen_cons]

theorem dials_entering (s : Strategy) (j : Journal) :
    Journal.dials (.began (.entering s) :: j) = j.dials := by
  simp [Journal.dials, Journal.seen_cons]

/-- What holds the handle after an entry is what its result says. -/
theorem settle_held (s : Strategy) (answer : Outcome Link) (w : World σ) :
    (∀ l, answer = .done l → (settle s answer w).1.2.held = some l) ∧
      ((∀ l, answer ≠ .done l) → (settle s answer w).1.2.held = none) := by
  cases answer with
  | done l => exact ⟨fun l' same => congrArg some (Outcome.done.inj same), fun h => absurd rfl (h l)⟩
  | _ => exact ⟨fun l same => (by cases same), fun _ => rfl⟩

/-- Where a call comes down to one plain connect, its entry comes down to that connect and
the context's own events. -/
theorem entry_of_connect (net : Fabric σ) (config : Config) (env : Option Environment)
    (s : Strategy) (kind : Kind) (endpoint : Endpoint) (w : World σ)
    (leads : ∀ w, (⟨config, env⟩ : NetworkConnector).answer net s.call w =
      Link.connect net kind endpoint config w) :
    entry net ⟨config, env⟩ { strategy := s } w =
      settle s (outcome kind endpoint config (reply net endpoint config w.net))
        ((dialled net kind endpoint config (w.emit (.began (.entering s)))).emit .ended) := by
  rw [entry_of_empty, acquire, within_eq, connector]
  dsimp only
  rw [leads, connect_eq_of_reply]
  rfl

/-- A strategy whose call is one plain connect in every environment dials once, whatever the
reply. -/
theorem dialsOnce_of_aim (net : Fabric σ) (config : Config) (s : Strategy) (kind : Kind)
    (endpoint : Endpoint) (backend : Selection)
    (fixed : ∀ env, s.call.aim env = .ok backend)
    (leads : ∀ env (w : World σ), (⟨config, env⟩ : NetworkConnector).answer net s.call w =
      Link.connect net kind endpoint config w) :
    DialsOnce net config s kind endpoint := by
  have closed := fun env w => entry_of_connect net config env s kind endpoint w (leads env)
  refine
    { unheard := unheard_of_aim net config s _ fixed
      result := fun env w => by rw [closed, settle_result]
      asked := fun env w => by rw [closed, settle_net]; rfl
      dials := fun env w => ?_
      held := fun env w l done => ?_
      empty := fun env w refused => ?_ }
  · rw [closed, settle_dials, emit_journal, dials_ended, dialled, trace_dials, emit_journal,
      dials_entering]
  · rw [closed] at done ⊢
    rw [settle_result] at done
    obtain ⟨socket, rfl⟩ := outcome_done kind endpoint config _ l done
    exact ⟨(settle_held s _ _).1 _ done, rfl, rfl, rfl⟩
  · rw [closed] at refused ⊢
    simp only [settle_result] at refused
    exact (settle_held s _ _).2 refused

/-- An entry whose aim is a fault does nothing but fail. -/
theorem entry_of_fault (net : Fabric σ) (c : NetworkConnector) (s : Strategy) (w : World σ)
    (e : Error) (fault : s.call.aim (c.environment w) = .error e) :
    entry net c { strategy := s } w =
      ((.failed e, { strategy := s }), (w.emit (.began (.entering s))).emit .ended) := by
  rw [entry_eq_pursue, fault]
  rfl

/-- Half a simulator address is a fault of its own, which no environment completes. -/
theorem aim_of_half (host : Option String) (port : Option UInt16)
    (half : host.isSome ≠ port.isSome) (env : Environment) :
    (Strategy.sim host port).call.aim env =
      .error (.config (.incompleteSimulator host port)) := by
  cases host <;> cases port
  · exact absurd rfl half
  · rfl
  · rfl
  · exact absurd rfl half

/-- The outcome of a connect to the backend is that of the call that leads there. -/
theorem approach_result (net : Fabric σ) (config : Config) (call : Call) (s : Selection)
    (w : World σ) :
    (approach net config call (.ok s) w).1 = (connectTo net { config } s w).1 := by
  obtain ⟨result, after, events, same⟩ := connectTo_detached net { config } s w.net
  have plain := same w.process w.journal
  cases call with
  | fromEnvironment =>
    have inside := same w.process (.began .connectingSelected :: .notice (.selected s) :: w.journal)
    exact (congrArg Prod.fst inside).trans (congrArg Prod.fst plain).symm
  | _ => rfl

/-- A backend that is dialled never fails by a fault of the environment. -/
theorem outcome_ne_environment (kind : Kind) (endpoint : Endpoint) (config : Config)
    (r : Reply) (fault : EnvironmentFault) :
    outcome kind endpoint config r ≠ .failed (.environment fault) := by
  intro failed
  cases r with
  | connected socket => cases failed
  | failed f => cases failed
  | silent =>
    unfold outcome at failed
    cases limit : config.connectTimeout with
    | none => rw [limit] at failed; cases failed
    | some d => rw [limit] at failed; cases failed

/-- An environment that leads to a backend and one that leads nowhere are told apart. -/
theorem heard_of_aims (net : Fabric σ) (config : Config) (s : Strategy) (w : World σ)
    (env env' : Environment) (fault : EnvironmentFault) (backend : Selection) (kind : Kind)
    (endpoint : Endpoint) (nowhere : s.call.aim env = .error (.environment fault))
    (somewhere : s.call.aim env' = .ok backend)
    (leads : ∀ w : World σ,
      connectTo net { config } backend w = Link.connect net kind endpoint config w) :
    (entry net ⟨config, some env⟩ { strategy := s } w).1.1 ≠
      (entry net ⟨config, some env'⟩ { strategy := s } w).1.1 := by
  have read : ∀ e : Environment, (⟨config, some e⟩ : NetworkConnector).environment w = e :=
    fun _ => rfl
  have refused := entry_of_fault net ⟨config, some env⟩ s w _ (by rw [read]; exact nowhere)
  have dialled := entry_eq_pursue net ⟨config, some env'⟩ s w
  rw [read, somewhere, pursue] at dialled
  rw [refused, dialled, settle_result, within_eq]
  dsimp only
  rw [approach_result, leads, connect_eq_of_reply]
  exact (outcome_ne_environment kind endpoint config _ fault).symm

def Addressless (s : Strategy) : Prop := s = .auto ∨ s = .arq none ∨ s = .sim none none

/-- For each of these strategies there are two environments between which the result of an
entry differs, over any network. -/
theorem heard_of_addressless (net : Fabric σ) (config : Config) (s : Strategy) (w : World σ)
    (h : Addressless s) :
    ∃ env env', (entry net ⟨config, some env⟩ { strategy := s } w).1.1 ≠
      (entry net ⟨config, some env'⟩ { strategy := s } w).1.1 := by
  let listed : Environment := ⟨[(Variable.fpgaIps, "a")]⟩
  let simulated : Environment := ⟨[(Variable.simPort, "1")]⟩
  rcases h with rfl | rfl | rfl
  · exact ⟨{}, listed, heard_of_aims net config .auto w {} listed _ (.hardware "a") .arq _
      rfl (by decide +kernel) fun _ => rfl⟩
  · exact ⟨{}, listed, heard_of_aims net config (.arq none) w {} listed _ (.hardware "a") .arq _
      rfl (by decide +kernel) fun _ => rfl⟩
  · exact ⟨{}, simulated, heard_of_aims net config (.sim none none) w {} simulated _
      (.simulation ⟨"127.0.0.1", 1⟩) .sim _ rfl (by decide +kernel) fun _ => rfl⟩

/-- What entries of empty contexts hear of the environment, and what they dial. -/
structure Heard (net : Fabric σ) (config : Config) : Prop where
  arqTo : ∀ ip, DialsOnce net config (.arq (some ip)) .arq ⟨ip, config.arqPort⟩
  simTo : ∀ host port, DialsOnce net config (.sim (some host) (some port)) .sim ⟨host, port⟩
  /-- The failure is all there is: the network is not asked, and nothing is counted. -/
  half : ∀ host port, host.isSome ≠ port.isSome → ∀ env w,
    entry net ⟨config, env⟩ { strategy := .sim host port } w =
      ((.failed (.config (.incompleteSimulator host port)), { strategy := .sim host port }),
        (w.emit (.began (.entering (.sim host port)))).emit .ended)
  unheard : ∀ s, ¬Addressless s → Unheard net config s
  heard : ∀ s, Addressless s → ∀ w, ∃ env env',
    (entry net ⟨config, some env⟩ { strategy := s } w).1.1 ≠
      (entry net ⟨config, some env'⟩ { strategy := s } w).1.1
  /-- The environment is read for the aim alone. -/
  once : ∀ s env w, entry net ⟨config, env⟩ { strategy := s } w =
    pursue net config s (s.call.aim ((⟨config, env⟩ : NetworkConnector).environment w)) w
  /-- What comes after the aim is the same in every environment. -/
  deaf : ∀ s aim, Detached (pursue net config s aim)
  /-- A context that holds a handle hears nothing at all. -/
  rejected : ∀ ctx l env w, ctx.held = some l →
    entry net ⟨config, env⟩ ctx w = ((.failed (.invalidState .alreadyEntered), ctx), w)

/-- Over every network and with all settings, a strategy that gives an address is entered
independently of the environment, and one that gives none reads it once. -/
theorem explicit_unheard (net : Fabric σ) (config : Config) : Heard net config := by
  have arqTo : ∀ ip, DialsOnce net config (.arq (some ip)) .arq ⟨ip, config.arqPort⟩ :=
    fun ip => dialsOnce_of_aim net config _ _ _ (.hardware ip) (fun _ => rfl) fun _ _ => rfl
  have simTo : ∀ host port,
      DialsOnce net config (.sim (some host) (some port)) .sim ⟨host, port⟩ :=
    fun host port => dialsOnce_of_aim net config _ _ _ (.simulation ⟨host, port⟩)
      (fun _ => rfl) fun _ _ => rfl
  refine
    { arqTo := arqTo
      simTo := simTo
      half := fun host port half env w =>
        entry_of_fault net ⟨config, env⟩ _ w _ (aim_of_half host port half _)
      unheard := fun s given => ?_
      heard := fun s h w => heard_of_addressless net config s w h
      once := fun s env w => entry_eq_pursue net ⟨config, env⟩ s w
      deaf := pursue_detached net config
      rejected := fun ctx l env w held => ?_ }
  · match s with
    | .auto => exact absurd (.inl rfl) given
    | .arq none => exact absurd (.inr (.inl rfl)) given
    | .arq (some ip) => exact (arqTo ip).unheard
    | .sim none none => exact absurd (.inr (.inr rfl)) given
    | .sim (some host) (some port) => exact (simTo host port).unheard
    | .sim (some host) none => exact unheard_of_aim net config _ _ fun _ => rfl
    | .sim none (some port) => exact unheard_of_aim net config _ _ fun _ => rfl
  · rw [entry, enter_of_held _ ctx w l held]

/-- A complete simulator in the environment does not complete half an address. -/
example :
    let env : Environment := ⟨[(Variable.simPort, "8"), (Variable.simHost, "host")]⟩
    let r := entry (playing fun _ => .connected 7) { env := some env }
      { strategy := .sim (some "other") none } { net := 0 }
    r.1.1 = .failed (.config (.incompleteSimulator (some "other") none)) ∧
      r.2.journal.dials = [] :=
  ⟨rfl, rfl⟩

end Tether.Context
