import Tether.Proofs.Link.Counters
import Tether.Session.Host

/-!
# The balance of a session

A session keeps links in its slots and may hold one in its context. Each of its steps
keeps the difference between what the journal has counted and what is kept, and so do
the moves of the peers, which count nothing. When a session is finished everything is
dropped, and as many connections were counted closed as opened.
-/
namespace Tether.Session

open Link

variable {σ : Type}

/-- What a slot contributes to the balance of a kind. -/
def Kept.share (k : Kind) : Kept → Int
  | .handle h => h.link.share k
  | .transport _ => 0
  | .nothing => 0

namespace State

/-- What a session has counted more than it keeps. -/
def surplus (k : Kind) (s : State σ) : Int :=
  s.world.journal.balance k - (s.slots.map (Kept.share k)).sum -
    s.context.load fun h => h.link.share k

end State

theorem act_balance (net : Fabric σ) (k : Kind) (a : Action) (h : Handle) (w : World σ) :
    (h.act net a w).2.2.journal.balance k - (h.act net a w).2.1.link.share k =
      w.journal.balance k - h.link.share k := by
  cases a with
  | commit bytes =>
    have counted := (commit_accounts net bytes k h.link w).balance
    simp only [Handle.act]
    generalize h.link.commit net bytes w = answer at counted ⊢
    obtain ⟨u | e | p | _, link, after⟩ := answer
    all_goals exact counted
  | close => exact (close_accounts net k h.link w).balance
  | record time => exact (perform_accounts net k (.record time) h.link w).balance
  | _ => rfl

theorem perform_balance (net : Fabric σ) (k : Kind) (actions : List Action) (h : Handle)
    (w : World σ) :
    (h.perform net actions w).2.2.journal.balance k -
        (h.perform net actions w).2.1.link.share k =
      w.journal.balance k - h.link.share k := by
  induction actions generalizing h w with
  | nil => rfl
  | cons a rest ih =>
    have acted := act_balance net k a h w
    simp only [Handle.perform]
    generalize h.act net a w = answer at acted ⊢
    obtain ⟨said | e | p | _, h', after⟩ := answer
    · exact (ih h' after).trans acted
    all_goals exact acted

/-- Actions in a bracket keep the balance with the handle that they work on. -/
theorem perform_keeps (net : Fabric σ) (k : Kind) (actions : List Action) :
    Context.Body.Keeps (fun w => w.journal.balance k) (fun h : Handle => h.link.share k)
      (fun h => h.perform net actions) :=
  perform_balance net k actions

theorem actOn_journal (net : Fabric σ) (t : Transport) (a : Action) (w : World σ) :
    (actOn net t a w).2.journal = w.journal := by
  cases a with
  | write bytes => exact Transport.answered_journal _ _
  | flush => exact Transport.answered_journal _ _
  | shutdown => exact Transport.answered_journal _ _
  | _ => rfl

theorem performOn_journal (net : Fabric σ) (t : Transport) (actions : List Action)
    (w : World σ) : (performOn net t actions w).2.journal = w.journal := by
  induction actions generalizing w with
  | nil => rfl
  | cons a rest ih =>
    have acted := actOn_journal net t a w
    simp only [performOn]
    generalize actOn net t a w = answer at acted ⊢
    obtain ⟨said | e | p | _, after⟩ := answer
    · exact (ih after).trans acted
    all_goals exact acted

/-- A quantity that follows links follows them as handles of a session. -/
theorem tracked_follows {stock : World σ → Int} {weight : Link → Int} {c : Connector σ Link}
    (h : Context.Follows stock weight c) :
    Context.Follows stock (fun handle => weight handle.link) (tracked c) where
  made call w := by
    have made := h.made call w
    simp only [tracked, Outcome.weight_map]
    exact made
  dropped handle w := h.dropped handle.link w
  unmoved := h.unmoved

namespace State

/-- Keeping a link in a new slot. -/
theorem keepLink_surplus (k : Kind) (l : Link) (s : State σ) :
    (s.keepLink l).2.surplus k = s.surplus k - l.share k := by
  simp only [keepLink, keep, surplus, List.map_append, List.sum_append, List.map_cons,
    List.map_nil, List.sum_cons, List.sum_nil, Kept.share]
  omega

theorem keepAll_surplus (k : Kind) (ls : List Link) (s : State σ) :
    (keepAll ls s).2.surplus k = s.surplus k - (ls.map (Link.share k)).sum := by
  induction ls generalizing s with
  | nil => simp [keepAll]
  | cons l rest ih =>
    have first := keepLink_surplus k l s
    have others := ih (s.keepLink l).2
    simp only [keepAll, List.map_cons, List.sum_cons]
    omega

theorem inWorld_surplus (k : Kind) (s : State σ) (w : World σ) :
    (s.inWorld w).surplus k = s.surplus k + (w.journal.balance k - s.world.journal.balance k) := by
  simp only [inWorld, surplus]
  omega

/-- What a success leaves behind takes what the world has counted for it. -/
theorem onWorld_surplus {α β : Type} (k : Kind) (weight : α → Int) (s : State σ)
    (f : α → State σ → β × State σ) (r : Outcome α × World σ)
    (counted : r.2.journal.balance k = s.world.journal.balance k + r.1.weight weight)
    (keeps : ∀ a s, (f a s).2.surplus k = s.surplus k - weight a) :
    (s.onWorld f r).2.surplus k = s.surplus k := by
  obtain ⟨a | e | p | _, after⟩ := r
  · have kept := keeps a (s.inWorld after)
    rw [inWorld_surplus] at kept
    simp only [onWorld, Outcome.weight] at counted ⊢
    omega
  all_goals
    simp only [onWorld, Outcome.weight] at counted ⊢
    rw [inWorld_surplus]
    omega

theorem opened_surplus (k : Kind) (s : State σ) (r : Outcome Link × World σ)
    (h : Connects k s.world r) : (s.opened r).2.surplus k = s.surplus k :=
  onWorld_surplus k (Link.share k) s _ r h.balance fun l s => keepLink_surplus k l s

theorem onContext_surplus {α : Type} (k : Kind) (s : State σ) (f : α → Answer)
    (r : Outcome α × Context Handle × World σ)
    (kept : r.2.2.journal.balance k - r.2.1.load (fun h => h.link.share k) =
      s.world.journal.balance k - s.context.load fun h => h.link.share k) :
    (s.onContext f r).2.surplus k = s.surplus k := by
  obtain ⟨result, context, after⟩ := r
  simp only [onContext, surplus] at kept ⊢
  omega

theorem contextConnector_follows (net : Fabric σ) (k : Kind) (s : State σ) :
    Context.Follows (fun w => w.journal.balance k) (fun h : Handle => h.link.share k)
      (s.contextConnector net) :=
  tracked_follows (NetworkConnector.connector_follows net k s.connector)

theorem enter_surplus (net : Fabric σ) (k : Kind) (s : State σ) (actions : List Action) :
    (s.enter net actions).2.surplus k = s.surplus k := by
  have entered := Context.enter_conserves (s.contextConnector_follows net k) s.context s.world
  unfold enter
  generalize s.context.enter (s.contextConnector net) s.world = answer at entered ⊢
  obtain ⟨h | e | p | _, context, after⟩ := answer
  · have used := Context.use_conserves (perform_keeps net k actions)
      (.panicked .notEntered) context after
    exact onContext_surplus k s _ _ (used.trans entered)
  all_goals
    simp only [surplus] at entered ⊢
    omega

theorem releaseKept_balance (net : Fabric σ) (k : Kind) (w : World σ) (kept : Kept) :
    (releaseKept net w kept).journal.balance k = w.journal.balance k - kept.share k := by
  cases kept with
  | handle h => exact release_balance net k h.link w
  | transport t => simp [releaseKept, Kept.share]
  | nothing => simp [releaseKept, Kept.share]

theorem act_surplus (net : Fabric σ) (k : Kind) (s : State σ) (index : Nat)
    (actions : List Action) : (s.act net index actions).2.surplus k = s.surplus k := by
  unfold act atSlot
  split
  next kept found =>
    cases kept with
    | handle h =>
      have worked := perform_balance net k actions h s.world
      dsimp only
      generalize h.perform net actions s.world = answer at worked ⊢
      obtain ⟨result, h', after⟩ := answer
      simp only [surplus, sum_map_set _ _ _ _ _ found, Kept.share] at worked ⊢
      omega
    | transport t =>
      have unmoved := performOn_journal net t actions s.world
      exact (inWorld_surplus k s _).trans (by rw [unmoved]; omega)
    | nothing => rfl
  · rfl

theorem drop_surplus (net : Fabric σ) (k : Kind) (s : State σ) (index : Nat) :
    (s.step net (.drop index)).2.surplus k = s.surplus k := by
  simp only [step, atSlot]
  split
  next kept found =>
    have released := releaseKept_balance net k s.world kept
    have gone : Kept.nothing.share k = 0 := rfl
    simp only [surplus, sum_map_set _ _ _ _ _ found, gone]
    omega
  · rfl

theorem connectArqTo_surplus (net : Fabric σ) (k : Kind) (s : State σ) (ip : String) :
    (s.connectArqTo net ip).2.surplus k = s.surplus k := by
  have kept := onWorld_surplus k (Link.share k) s keepLink
    (Link.connectArqTo net s.connector.config ip s.world)
    (connectArqTo_connects net k s.connector.config ip s.world).balance
    fun l s => keepLink_surplus k l s
  unfold connectArqTo
  generalize s.onWorld keepLink (Link.connectArqTo net s.connector.config ip s.world) = answer
    at kept ⊢
  obtain ⟨l | e | p | _, after⟩ := answer
  all_goals exact kept

/-- The step lemma of a session: what it counts stays with what it keeps. -/
theorem step_surplus (net : Fabric σ) (k : Kind) (s : State σ) (st : Step) :
    (s.step net st).2.surplus k = s.surplus k := by
  have follows := s.contextConnector_follows net k
  cases st with
  | enter actions => exact enter_surplus net k s actions
  | exit => exact onContext_surplus k s _ _ (Context.exit_conserves follows s.context s.world)
  | scope actions =>
    exact onContext_surplus k s _ _ (Context.bracket_conserves follows false
      (perform_keeps net k actions) s.context s.world)
  | run actions =>
    exact onContext_surplus k s _ _ (Context.bracket_conserves follows false
      (perform_keeps net k actions) s.context s.world)
  | held => rfl
  | call c => exact opened_surplus k s _ (NetworkConnector.answer_connects net k s.connector c _)
  | connect selection =>
    exact opened_surplus k s _ (NetworkConnector.connectTo_connects net k s.connector selection _)
  | connectArq => exact opened_surplus k s _ (connectArq_connects net k _ s.given _)
  | connectArqTo ip => exact connectArqTo_surplus net k s ip
  | connectSim => exact opened_surplus k s _ (connectSim_connects net k _ s.given _)
  | connectSimTo endpoint => exact opened_surplus k s _ (connectSimTo_connects net k _ endpoint _)
  | connectDaemon => exact opened_surplus k s _ (connectDaemon_connects net k _ s.given _)
  | connectDaemonTo endpoint =>
    exact opened_surplus k s _ (connectDaemonTo_connects net k _ endpoint _)
  | connectAll limit =>
    exact onWorld_surplus k (fun ls => (ls.map (Link.share k)).sum) s _ _
      (NetworkConnector.connectAll_balance net k s.connector limit s.world)
      fun ls s => keepAll_surplus k ls s
  | connectTransport endpoint =>
    refine onWorld_surplus k (fun _ => 0) s _ _ ?_ fun t s => ?_
    · have unmoved := Transport.connect_journal net endpoint s.connector.config.connectTimeout
        s.world
      rw [unmoved]
      cases (Transport.connect net endpoint s.connector.config.connectTimeout s.world).1 <;>
        simp [Outcome.weight]
    · simp [keep, surplus, Kept.share]
  | slot index actions => exact act_surplus net k s index actions
  | convert index =>
    simp only [step, atSlot]
    split
    · split <;> rfl
    · rfl
  | drop index => exact drop_surplus net k s index
  | setVariable name value => rfl
  | unsetVariable name => rfl

/-- On a host with peers, whoever takes the turn. -/
theorem take_surplus (k : Kind) (s : State Loopback) (turn : Turn) :
    (s.take turn).2.surplus k = s.surplus k := by
  cases turn with
  | own todo => exact step_surplus Loopback.fabric k s todo
  | other move => rfl

end State

theorem reports_surplus (k : Kind) (turns : List Turn) (s : State Loopback) :
    (reports turns s).2.surplus k = s.surplus k := by
  induction turns generalizing s with
  | nil => rfl
  | cons turn rest ih => exact (ih _).trans (State.take_surplus k s turn)

namespace State

theorem finish_balance (net : Fabric σ) (k : Kind) (s : State σ) :
    (s.finish net).world.journal.balance k = s.surplus k := by
  have emptied : ∀ (slots : List Kept) (w : World σ),
      (slots.foldl (releaseKept net) w).journal.balance k =
        w.journal.balance k - (slots.map (Kept.share k)).sum := by
    intro slots
    induction slots with
    | nil => simp
    | cons kept rest ih =>
      intro w
      have released := releaseKept_balance net k w kept
      rw [List.foldl_cons, ih, released, List.map_cons, List.sum_cons]
      omega
  have released := Context.release_conserves (s.contextConnector_follows net k) s.context
    (s.slots.foldl (releaseKept net) s.world)
  rw [emptied] at released
  exact released

end State

/-- At every moment of a session the connections counted opened and not closed are those it
keeps. -/
theorem reports_balance (setup : Setup) (routed : Bool) (turns : List Turn) (k : Kind)
    (s : State Loopback) (started : setup.start routed = .done s) :
    (reports turns s).2.world.journal.balance k =
      ((reports turns s).2.slots.map (Kept.share k)).sum +
        (reports turns s).2.context.load fun h => h.link.share k := by
  have fresh : s.surplus k = 0 := by
    unfold Setup.start at started
    split at started
    · cases started
    · obtain rfl := Outcome.done.inj started
      rfl
  have kept := reports_surplus k turns s
  rw [fresh, State.surplus] at kept
  omega

/-- When a session is over, every connection that was counted opened was counted closed. -/
theorem finished_opened_eq_closed (setup : Setup) (routed : Bool) (turns : List Turn) (k : Kind)
    (s : State Loopback) (started : setup.start routed = .done s) :
    ((reports turns s).2.finish Loopback.fabric).world.journal.total (.opened k) =
      ((reports turns s).2.finish Loopback.fabric).world.journal.total (.closed k) := by
  have kept := reports_balance setup routed turns k s started
  have even := State.finish_balance Loopback.fabric k (reports turns s).2
  rw [State.surplus, kept, Journal.balance] at even
  omega

end Tether.Session
