import Tether.Loopback
import Tether.Proofs.Holdings
import Tether.Proofs.Link.Counters

/-!
# The balance of opened and closed connections

At every moment of every run, the connections of a kind that were counted opened, less
those counted closed, are the links of that kind that are in hand and not closed: links
of the program's own and links held by its contexts. A step keeps the difference of the
two sides, since each operation does so for the one link that it works on; at the start
both are zero.
-/
namespace Tether.Holdings

open Link

variable {σ α : Type}

/-- The links of a kind that are in hand and not closed. -/
def standing (k : Kind) (s : Holdings σ) : Nat :=
  s.links.countP (Link.standing k) +
    s.holders.countP fun h => h.context.held.any (Link.standing k)

/-- What is in hand contributes this to the balance of a kind. -/
def share (k : Kind) (s : Holdings σ) : Int :=
  (s.links.map (Link.share k)).sum + (s.holders.map fun h => h.context.load (Link.share k)).sum

/-- What no step changes. -/
def surplus (k : Kind) (s : Holdings σ) : Int := s.world.journal.balance k - s.share k

/-- A sum over what is in hand is a count of the links that are not closed. -/
theorem share_eq_standing (k : Kind) (s : Holdings σ) : s.share k = s.standing k := by
  have held : (fun h : Holder => h.context.load (Link.share k)) =
      fun h => if h.context.held.any (Link.standing k) then 1 else 0 := by
    funext h
    unfold Context.load
    cases h.context.held <;> rfl
  rw [share, standing, Int.natCast_add, countP_eq_sum, countP_eq_sum, held]
  rfl

/-- A connect of any kind keeps the surplus if what it counted is what it hands over. -/
theorem obtain_surplus (k : Kind) (s : Holdings σ) (links : α → List Link)
    (r : Outcome α × World σ)
    (counted : r.2.journal.balance k = s.world.journal.balance k +
      r.1.weight fun a => ((links a).map (Link.share k)).sum) :
    (s.obtain links r).surplus k = s.surplus k := by
  obtain ⟨a | e | p | _, after⟩ := r
  · simp only [obtain, surplus, share, List.map_append, List.sum_append, Outcome.weight]
      at counted ⊢
    omega
  all_goals
    simp only [obtain, surplus, share, Outcome.weight] at counted ⊢
    omega

/-- Work on a link keeps the surplus if it moves the balance as the link's own share. -/
theorem atLink_surplus (k : Kind) (s : Holdings σ) (index : Nat)
    (work : Link → World σ → Link × World σ)
    (kept : ∀ l w, (work l w).2.journal.balance k - (work l w).1.share k =
      w.journal.balance k - l.share k) :
    (s.atLink index work).surplus k = s.surplus k := by
  unfold atLink
  split
  · rfl
  next l found =>
    have worked := kept l s.world
    simp only [surplus, share, sum_map_set _ _ _ _ _ found]
    omega

theorem atHolder_surplus (k : Kind) (s : Holdings σ) (index : Nat)
    (work : Holder → World σ → Context Link × World σ)
    (kept : ∀ h w, (work h w).2.journal.balance k - (work h w).1.load (Link.share k) =
      w.journal.balance k - h.context.load (Link.share k)) :
    (s.atHolder index work).surplus k = s.surplus k := by
  unfold atHolder
  split
  · rfl
  next h found =>
    have worked := kept h s.world
    simp only [surplus, share, sum_map_set _ _ _ _ _ found]
    omega

theorem drop_surplus (net : Fabric σ) (k : Kind) (s : Holdings σ) (index : Nat) :
    (s.drop net index).surplus k = s.surplus k := by
  unfold drop
  split
  · rfl
  next l found =>
    have released := release_balance net k l s.world
    simp only [surplus, share, sum_map_eraseIdx _ _ _ _ found]
    omega

theorem dropContext_surplus (net : Fabric σ) (k : Kind) (s : Holdings σ) (index : Nat) :
    (s.dropContext net index).surplus k = s.surplus k := by
  unfold dropContext
  split
  · rfl
  next h found =>
    have released := Context.release_conserves
      (NetworkConnector.connector_follows net k h.connector) h.context s.world
    simp only [surplus, share, sum_map_eraseIdx _ _ _ _ found]
    omega

/-- Deeds add up, whichever of them fail. -/
theorem performAll_balance (net : Fabric σ) (k : Kind) (deeds : List Deed) (l : Link)
    (w : World σ) :
    (l.performAll net deeds w).2.journal.balance k - (l.performAll net deeds w).1.share k =
      w.journal.balance k - l.share k := by
  induction deeds generalizing l w with
  | nil => rfl
  | cons d rest ih => exact (ih _ _).trans (perform_accounts net k d l w).balance

/-- Every way to a link counts one opened connection for a link it hands over and none
otherwise. -/
theorem go_connects (net : Fabric σ) (k : Kind) (c : NetworkConnector) (way : Way)
    (w : World σ) : Connects k w (way.go net c w) := by
  cases way with
  | opening kind endpoint => exact connect_connects net k kind endpoint c.config w
  | arqTo ip => exact connectArqTo_connects net k c.config ip w
  | arq env => exact connectArq_connects net k c.config env w
  | simTo endpoint => exact connectSimTo_connects net k c.config endpoint w
  | sim env => exact connectSim_connects net k c.config env w
  | daemonTo endpoint => exact connectDaemonTo_connects net k c.config endpoint w
  | daemon env => exact connectDaemon_connects net k c.config env w
  | selection s => exact NetworkConnector.connectTo_connects net k c s w
  | call asked => exact NetworkConnector.answer_connects net k c asked w

/-- No operation of a program, however it ends, moves what is counted away from what is in
hand. -/
theorem step_surplus (net : Fabric σ) (k : Kind) (s : Holdings σ) (m : Move σ) :
    (s.step net m).surplus k = s.surplus k := by
  have follows := fun c => NetworkConnector.connector_follows net k c
  have bodies : ∀ deeds (ending : Outcome Unit),
      (Link.body net deeds ending).Keeps (fun w => w.journal.balance k) (Link.share k) :=
    fun deeds _ l w => performAll_balance net k deeds l w
  cases m with
  | connect c way =>
    refine obtain_surplus k s _ _ ?_
    simpa using (go_connects net k c way s.world).balance
  | connectAll c limit =>
    exact obtain_surplus k s _ _ (NetworkConnector.connectAll_balance net k c limit s.world)
  | deed index d =>
    exact atLink_surplus k s index _ fun l w => (perform_accounts net k d l w).balance
  | drop index => exact drop_surplus net k s index
  | newContext c strategy => simp [step, surplus, share, Context.load]
  | enter index =>
    exact atHolder_surplus k s index _ fun h w =>
      Context.enter_conserves (follows h.connector) h.context w
  | deedHeld index d =>
    have keeps : Context.Body.Keeps (fun w => w.journal.balance k) (Link.share k)
        (fun l => l.perform net d) := fun l w => (perform_accounts net k d l w).balance
    exact atHolder_surplus k s index _ fun h w => Context.use_conserves keeps _ h.context w
  | exit index =>
    exact atHolder_surplus k s index _ fun h w =>
      Context.exit_conserves (follows h.connector) h.context w
  | scope index leak deeds ending =>
    exact atHolder_surplus k s index _ fun h w =>
      Context.bracket_conserves (follows h.connector) leak (bodies deeds ending) h.context w
  | run index deeds ending =>
    exact atHolder_surplus k s index _ fun h w =>
      Context.bracket_conserves (follows h.connector) false (bodies deeds ending) h.context w
  | dropContext index => exact dropContext_surplus net k s index
  | outside state process => rfl

/-- By induction on the moves; `step_surplus` is the invariant. -/
theorem run_surplus (net : Fabric σ) (k : Kind) (s : Holdings σ) (moves : List (Move σ)) :
    (s.run net moves).surplus k = s.surplus k := by
  induction moves generalizing s with
  | nil => rfl
  | cons m rest ih => exact (ih (s.step net m)).trans (step_surplus net k s m)

theorem standing_of_nothing_held (k : Kind) (s : Holdings σ) (links : s.links = [])
    (holders : ∀ h ∈ s.holders, h.context.held = none) : s.standing k = 0 := by
  have empty : s.holders.countP (fun h => h.context.held.any (Link.standing k)) = 0 := by
    rw [List.countP_eq_zero]
    intro h found
    simp [holders h found]
  rw [standing, links, empty]
  rfl

/-- The links that connects hand over, in any world and over any connector. -/
inductive Established (net : Fabric σ) (l : Link) : Prop
  | single (c : NetworkConnector) (way : Way) (w : World σ)
      (handed : (way.go net c w).1 = .done l)
  | listed (c : NetworkConnector) (limit : Option Nat) (w : World σ) (ls : List Link)
      (handed : (c.connectAll net limit w).1 = .done ls) (found : l ∈ ls)

theorem Established.state_opened {net : Fabric σ} {l : Link} (h : Established net l) :
    l.state = .opened := by
  cases h with
  | single c way w handed => exact (go_connects net .arq c way w).handed l handed
  | listed c limit w ls handed found =>
    exact NetworkConnector.connectAll_handed net c limit w ls handed l found

/-- After every run the connections of a kind that were counted opened, less those counted
closed, are the links of the kind in hand that are not closed; with nothing in hand the two
totals agree. Every established link is counted closed once over its life, and a connect
that does not hand over a link changes neither total. -/
theorem opened_sub_closed_eq_standing (net : Fabric σ) (state : σ)
    (process : ProcessEnvironment) (k : Kind) :
    (∀ moves : List (Move σ),
      ((start state process).run net moves).world.journal.balance k =
        ((start state process).run net moves).standing k) ∧
    (∀ moves : List (Move σ),
      ((start state process).run net moves).links = [] →
      (∀ h ∈ ((start state process).run net moves).holders, h.context.held = none) →
      ((start state process).run net moves).world.journal.total (.opened k) =
        ((start state process).run net moves).world.journal.total (.closed k)) ∧
    (∀ l, Established net l → ∀ life last,
      l.closings net k life last = if l.kind = k then 1 else 0) ∧
    ∀ c (way : Way) w, (∀ l, (way.go net c w).1 ≠ .done l) →
      (way.go net c w).2.journal.total (.opened k) = w.journal.total (.opened k) ∧
      (way.go net c w).2.journal.total (.closed k) = w.journal.total (.closed k) := by
  have balanced : ∀ moves : List (Move σ),
      ((start state process).run net moves).world.journal.balance k =
        ((start state process).run net moves).standing k := by
    intro moves
    have kept := run_surplus net k (start state process) moves
    have nothing : (start state process).surplus k = 0 := rfl
    rw [nothing, surplus, share_eq_standing] at kept
    omega
  refine ⟨balanced, fun moves links holders => ?_, fun l established life last => ?_,
    fun c way w refused => ?_⟩
  · have even := balanced moves
    rw [standing_of_nothing_held k _ links holders, Journal.balance] at even
    omega
  · have unclosed : l.state ≠ .closed := by simp [established.state_opened]
    rw [closings_eq_share, share_of_not_closed k l unclosed]
  · have connects := go_connects net k c way w
    have unmade : (way.go net c w).1.weight (Link.share k) = 0 := by
      cases answer : (way.go net c w).1 with
      | done l => exact absurd answer (refused l)
      | _ => rfl
    have opened := connects.opened
    rw [unmade] at opened
    exact ⟨by omega, connects.closed⟩

/-- A connect, one that fails, a leaked scope, and a link that is closed twice. -/
example :
    let net : Loopback := { listeners := [{ endpoint := ⟨"host", 1⟩ }] }
    let s := (start net {}).run Loopback.fabric
      [.connect {} (.simTo ⟨"host", 1⟩), .connect {} (.simTo ⟨"host", 2⟩),
       .newContext {} (.sim (some "host") (some 1)), .scope 0 true [.commit [1]] (.done ()),
       .deed 0 .close, .deed 0 .close]
    s.standing .sim = 1 ∧ s.world.journal.total (.opened .sim) = 2 ∧
      s.world.journal.total (.closed .sim) = 1 := by
  decide

end Tether.Holdings
