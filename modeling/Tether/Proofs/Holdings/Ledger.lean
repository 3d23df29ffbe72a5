import Tether.Loopback
import Tether.Proofs.Connector.Incidents

/-!
# The ledger of attempts and errors

After every run, over any number of links, contexts and connectors, the counters of
attempts, opened connections, their samples and errors are explained by the incidents of
the run: what the network refused, never answered, or broke, as read off its replies while
the moves are made one after another. A move has the incidents of its own operation, and
everything else that a program does counts for none of these.
-/
namespace Tether

open Link NetworkConnector

variable {σ α : Type}

def Way.incidents (net : Fabric σ) (c : NetworkConnector) : Way → World σ → List Incident
  | opening kind endpoint, w => mishaps net kind endpoint c.config 1 w.net
  | arqTo ip, w => Incident.ofAim net c.config w.net (.ok (.hardware ip))
  | arq env, w => Incident.ofAim net c.config w.net (Call.arq.aim env)
  | simTo endpoint, w => Incident.ofAim net c.config w.net (.ok (.simulation endpoint))
  | sim env, w => Incident.ofAim net c.config w.net (Call.sim.aim env)
  | daemonTo endpoint, w => Incident.ofAim net c.config w.net (.ok (.daemon endpoint))
  | daemon env, w =>
    match env.daemon with
    | .ok (some endpoint) => Incident.ofAim net c.config w.net (.ok (.daemon endpoint))
    | _ => []
  | selection s, w => Incident.ofAim net c.config w.net (.ok s)
  | .call asked, w => Incident.ofAim net c.config w.net (asked.aim (c.environment w))

theorem Way.go_tallied (net : Fabric σ) (c : NetworkConnector) (way : Way) (w : World σ) :
    Tallied w.journal (way.go net c w).2.journal (way.incidents net c w) := by
  have connects := fun s => connectTo_tallied net c s w
  cases way with
  | opening kind endpoint => exact connect_tallied net kind endpoint c.config w
  | arqTo ip => exact connects (.hardware ip)
  | arq env => exact answer_tallied net { c with env := some env } .arq w
  | simTo endpoint => exact connects (.simulation endpoint)
  | sim env => exact answer_tallied net { c with env := some env } .sim w
  | daemonTo endpoint => exact connects (.daemon endpoint)
  | daemon env =>
    simp only [go, incidents, connectDaemon]
    cases env.daemon with
    | error e => exact .refl w.journal
    | ok found =>
      cases found with
      | none => exact .refl w.journal
      | some endpoint => exact connects (.daemon endpoint)
  | selection s => exact connects s
  | call asked => exact answer_tallied net c asked w

namespace Holdings

def moveIncidents (net : Fabric σ) (s : Holdings σ) : Move σ → List Incident
  | .connect c way => way.incidents net c s.world
  | .connectAll c limit => c.allIncidents net limit s.world
  | .deed index d => s.links[index]?.elim [] fun l => d.incidents net l s.world
  | .enter index => s.holders[index]?.elim [] fun h =>
      h.context.entryIncidents net h.connector s.world
  | .deedHeld index d => s.holders[index]?.elim [] fun h =>
      h.context.held.elim [] fun l => d.incidents net l s.world
  | .scope index _ deeds _ => s.holders[index]?.elim [] fun h =>
      h.context.bracketIncidents net h.connector deeds s.world
  | .run index deeds _ => s.holders[index]?.elim [] fun h =>
      h.context.bracketIncidents net h.connector deeds s.world
  | _ => []

/-- The incidents of moves in order. -/
def incidents (net : Fabric σ) : Holdings σ → List (Move σ) → List Incident
  | _, [] => []
  | s, m :: rest => s.moveIncidents net m ++ incidents net (s.step net m) rest

theorem obtain_world (s : Holdings σ) (links : α → List Link) (r : Outcome α × World σ) :
    (s.obtain links r).world = r.2 := by
  obtain ⟨a | e | p | _, after⟩ := r <;> rfl

/-- A place without a link is the mistake of whoever named it, and counts nothing. -/
theorem atLink_tallied (s : Holdings σ) (index : Nat) (work : Link → World σ → Link × World σ)
    (is : Link → List Incident)
    (worked : ∀ l, Tallied s.world.journal (work l s.world).2.journal (is l)) :
    Tallied s.world.journal (s.atLink index work).world.journal
      (s.links[index]?.elim [] is) := by
  unfold atLink
  cases s.links[index]? with
  | none => exact .refl s.world.journal
  | some l => exact worked l

theorem atHolder_tallied (s : Holdings σ) (index : Nat)
    (work : Holder → World σ → Context Link × World σ) (is : Holder → List Incident)
    (worked : ∀ h, Tallied s.world.journal (work h s.world).2.journal (is h)) :
    Tallied s.world.journal (s.atHolder index work).world.journal
      (s.holders[index]?.elim [] is) := by
  unfold atHolder
  cases s.holders[index]? with
  | none => exact .refl s.world.journal
  | some h => exact worked h

theorem use_tallied (net : Fabric σ) (d : Deed) (ctx : Context Link) (w : World σ) :
    Tallied w.journal (ctx.use (fun l => l.perform net d) (.done ()) w).2.2.journal
      (ctx.held.elim [] fun l => d.incidents net l w) := by
  unfold Context.use
  cases ctx.held with
  | none => exact .refl w.journal
  | some l => exact perform_tallied net d l w

theorem exit_tallied (net : Fabric σ) (s : Holdings σ) (index : Nat) :
    Tallied s.world.journal (s.step net (.exit index)).world.journal [] := by
  have exited := atHolder_tallied s index
    (fun h w => (h.context.exit (h.connector.connector net) w).2) (fun _ => [])
    fun h => Context.exit_tallied net h.connector h.context s.world
  cases found : s.holders[index]? with
  | none => rwa [found] at exited
  | some h => rwa [found] at exited

theorem drop_tallied (net : Fabric σ) (s : Holdings σ) (index : Nat) :
    Tallied s.world.journal (s.drop net index).world.journal [] := by
  unfold drop
  split
  · exact .refl s.world.journal
  next l _ => exact release_tallied net l s.world

theorem dropContext_tallied (net : Fabric σ) (s : Holdings σ) (index : Nat) :
    Tallied s.world.journal (s.dropContext net index).world.journal [] := by
  unfold dropContext
  split
  · exact .refl s.world.journal
  next h _ => exact Context.release_tallied net h.connector h.context s.world

/-- What a move counts is read off the network's replies to it, and off nothing that the
counters say. -/
theorem step_tallied (net : Fabric σ) (s : Holdings σ) (m : Move σ) :
    Tallied s.world.journal (s.step net m).world.journal (s.moveIncidents net m) := by
  cases m with
  | connect c way =>
    rw [step, obtain_world]
    exact Way.go_tallied net c way s.world
  | connectAll c limit =>
    rw [step, obtain_world]
    exact connectAll_tallied net c limit s.world
  | deed index d =>
    exact atLink_tallied s index _ _ fun l => perform_tallied net d l s.world
  | drop index => exact drop_tallied net s index
  | newContext c strategy => exact .refl s.world.journal
  | enter index =>
    exact atHolder_tallied s index _ _ fun h =>
      Context.enter_tallied net h.connector h.context s.world
  | deedHeld index d =>
    exact atHolder_tallied s index _ _ fun h => use_tallied net d h.context s.world
  | exit index => exact exit_tallied net s index
  | scope index leak deeds ending =>
    exact atHolder_tallied s index _ _ fun h =>
      Context.bracket_tallied net h.connector leak deeds ending h.context s.world
  | run index deeds ending =>
    exact atHolder_tallied s index _ _ fun h =>
      Context.bracket_tallied net h.connector false deeds ending h.context s.world
  | dropContext index => exact dropContext_tallied net s index
  | outside state process => exact .refl s.world.journal

/-- By induction on the moves, each in the state that the one before it left. -/
theorem run_tallied (net : Fabric σ) (s : Holdings σ) (moves : List (Move σ)) :
    Tallied s.world.journal (s.run net moves).world.journal (s.incidents net moves) := by
  induction moves generalizing s with
  | nil => exact .refl s.world.journal
  | cons m rest ih => exact (step_tallied net s m).trans (ih (s.step net m))

/-- What counters show of attempts and errors, by the incidents of the run. -/
structure Explained (j : Journal) (is : List Incident) : Prop where
  attempts : ∀ k, j.total (.attempts k) = j.total (.opened k) +
    (is.countP (Incident.isRefused k) + is.countP (Incident.isUnanswered k))
  /-- If every connect is answered, the attempts that opened nothing have failed. -/
  answered : (∀ k, Incident.unanswered k ∉ is) →
    ∀ k, j.total (.attempts k) = j.total (.opened k) + is.countP (Incident.isRefused k)
  samples : ∀ k, j.total (.connectDuration k) = j.total (.opened k)
  /-- An error is a failed attempt or a failed commit, and each is counted once. -/
  errors : ∀ k r, j.total (.errors k r) =
    is.countP (Incident.isRefusedFor k r) + is.countP (Incident.isBrokenFor k r)
  reasons : ∀ k r, r ≠ .io → r ≠ .timeout → j.total (.errors k r) = 0

/-- A tally that starts from nothing explains the counters themselves. -/
theorem explained_of_tallied (j : Journal) (is : List Incident) (h : Tallied [] j is) :
    Explained j is := by
  have attempts : ∀ k, j.total (.attempts k) = j.total (.opened k) +
      (is.countP (Incident.isRefused k) + is.countP (Incident.isUnanswered k)) := by
    intro k
    have counted := h.attempts k
    rw [Journal.total_nil, Journal.total_nil] at counted
    omega
  have errors : ∀ k r, j.total (.errors k r) =
      is.countP (Incident.isRefusedFor k r) + is.countP (Incident.isBrokenFor k r) := by
    intro k r
    have counted := h.errors k r
    rw [Journal.total_nil] at counted
    omega
  refine ⟨attempts, fun answered k => ?_, fun k => ?_, errors, fun k r faultless prompt => ?_⟩
  · have none_waits : is.countP (Incident.isUnanswered k) = 0 := by
      rw [List.countP_eq_zero]
      intro i found waits
      cases i with
      | unanswered kind =>
        obtain rfl : kind = k := by simpa [Incident.isUnanswered] using waits
        exact answered kind found
      | refused kind e => cases waits
      | broken kind e => cases waits
    rw [attempts k, none_waits, Nat.add_zero]
  · have counted := h.samples k
    rw [Journal.total_nil, Journal.total_nil] at counted
    omega
  · have none_refused : is.countP (Incident.isRefusedFor k r) = 0 := by
      rw [List.countP_eq_zero]
      intro i found
      simp [(h.ordinary i found).isRefusedFor_eq_false k faultless prompt]
    have none_broken : is.countP (Incident.isBrokenFor k r) = 0 := by
      rw [List.countP_eq_zero]
      intro i found
      simp [(h.ordinary i found).isBrokenFor_eq_false k faultless]
    rw [errors k r, none_refused, none_broken]

/-- What is wrong without an incident is counted nowhere, or not as one: faults in the aim
of a connect, work that the state of a link or a context forbids, and failed shutdowns. -/
structure Uncounted (net : Fabric σ) : Prop where
  misdirected : ∀ (c : NetworkConnector) (call : Call) (w : World σ) (e : Error),
    call.aim (c.environment w) = .error e → c.answer net call w = (.failed e, w)
  unlisted : ∀ (c : NetworkConnector) (limit : Option Nat) (w : World σ) (e : Error),
    (c.environment w).selectAll limit = .error e → c.connectAll net limit w = (.failed e, w)
  rejected : ∀ (l : Link) (bytes : List UInt8) (w : World σ), l.state ≠ .opened →
    l.commit net bytes w = (.failed (.invalidState (.notOpen l.state)), l, w)
  entered : ∀ (c : NetworkConnector) (ctx : Context Link) (l : Link) (w : World σ),
    ctx.held = some l →
      ctx.enter (c.connector net) w = (.failed (.invalidState .alreadyEntered), ctx, w)
  /-- The end of all attempts is no error besides those of the attempts. -/
  exhausted : ∀ (config : Config) (endpoint : Endpoint) (w : World σ),
    Tallied w.journal (connectDaemonTo net config endpoint w).2.journal
      (mishaps net .quiggeldy endpoint config config.limit w.net)
  closed : ∀ (l : Link) (w : World σ), Tallied w.journal (l.close net w).2.2.journal []

theorem uncounted (net : Fabric σ) : Uncounted net where
  misdirected c call w e fault := by rw [answer_eq_approach, fault]; rfl
  unlisted c limit w e fault := by rw [connectAll, fault]
  rejected l bytes w state := commit_of_not_open net bytes l w state
  entered c ctx l w held := Context.enter_of_held _ ctx w l held
  exhausted config endpoint w := connectTo_tallied net { config } (.daemon endpoint) w
  closed l w := perform_tallied net .close l w

/-- Every run's counters of attempts, opened connections, samples and errors are explained
by its incidents, and what is no incident is not counted as one. -/
theorem attempts_and_errors_explained (net : Fabric σ) (state : σ)
    (process : ProcessEnvironment) :
    (∀ moves : List (Move σ), Explained ((start state process).run net moves).world.journal
      ((start state process).incidents net moves)) ∧ Uncounted net :=
  ⟨fun moves => explained_of_tallied _ _ (run_tallied net (start state process) moves),
    uncounted net⟩

/-- A simulator that is not there, a daemon that is tried twice in vain, half an address,
and a link that is closed and then committed on. -/
example :
    let net : Loopback := { listeners := [{ endpoint := ⟨"host", 1⟩ }] }
    let moves : List (Move Loopback) :=
      [.connect {} (.simTo ⟨"host", 2⟩),
       .connect { config := { attemptsMax := 2 } } (.daemonTo ⟨"host", 3⟩),
       .newContext {} (.sim (some "host") none), .enter 0,
       .connect {} (.simTo ⟨"host", 1⟩), .deed 0 .close, .deed 0 (.commit [1])]
    (start net {}).incidents Loopback.fabric moves =
      [.refused .sim (.io .refused), .refused .quiggeldy (.io .refused),
       .refused .quiggeldy (.io .refused)] := by
  cbv

end Holdings
end Tether
