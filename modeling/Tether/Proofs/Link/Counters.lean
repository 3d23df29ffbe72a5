import Mathlib.Algebra.BigOperators.Group.List.Basic
import Mathlib.Algebra.Ring.Int.Defs
import Tether.Connector.Network
import Tether.Proofs.Context.Conservation
import Tether.Proofs.Link.Lifecycle

/-!
# Opened and closed links on the counters

A link counts for its kind from the moment it is opened until it is closed or dropped.
What a journal has counted opened and not yet closed changes with every operation by
exactly the change of this. Only a connect that hands over a link counts an opened
connection, and then one; no connect counts a closed one, whatever it answers and
however often it tried.
-/
namespace Tether

variable {σ α : Type}

/-- The connections of a kind that were counted opened, less those counted closed. -/
def Journal.balance (j : Journal) (k : Kind) : Int := j.total (.opened k) - j.total (.closed k)

theorem countP_eq_sum (p : α → Bool) (l : List α) :
    (l.countP p : Int) = (l.map fun a => if p a then 1 else 0).sum := by
  induction l with
  | nil => rfl
  | cons a rest ih =>
    rw [List.countP_cons, List.map_cons, List.sum_cons, ← ih]
    split <;> simp [Int.add_comm]

theorem sum_map_set (f : α → Int) (l : List α) (index : Nat) (a b : α)
    (found : l[index]? = some a) :
    ((l.set index b).map f).sum = (l.map f).sum - f a + f b := by
  obtain ⟨bound, rfl⟩ := List.getElem?_eq_some_iff.mp found
  rw [List.map_set, List.sum_set', dif_pos (by simpa using bound), List.getElem_map]
  omega

theorem sum_map_eraseIdx (f : α → Int) (l : List α) (index : Nat) (a : α)
    (found : l[index]? = some a) :
    ((l.eraseIdx index).map f).sum = (l.map f).sum - f a := by
  obtain ⟨bound, rfl⟩ := List.getElem?_eq_some_iff.mp found
  have inside : index < (l.map f).length := by simpa using bound
  have whole := List.add_sum_eraseIdx inside fun other _ => AddCommute.all _ other
  rw [List.getElem_map, List.eraseIdx_map] at whole
  omega

namespace Link

/-- Whether a link stands on the counters as one of a kind that is not closed. -/
def standing (k : Kind) (l : Link) : Bool := l.kind == k && l.state != .closed

/-- What a link contributes to the balance of a kind. -/
def share (k : Kind) (l : Link) : Int := if l.standing k then 1 else 0

theorem share_of_closed (k : Kind) (l : Link) (h : l.state = .closed) : l.share k = 0 := by
  simp [share, standing, h]

theorem share_of_not_closed (k : Kind) (l : Link) (h : l.state ≠ .closed) :
    l.share k = if l.kind = k then 1 else 0 := by
  simp [share, standing, h]

/-- What an operation on a link has counted: no opened connection, and a closed one
exactly if the link ceased to stand. -/
structure Accounts (k : Kind) (l : Link) (w : World σ) (l' : Link) (w' : World σ) : Prop where
  opened : w'.journal.total (.opened k) = w.journal.total (.opened k)
  closed : (w'.journal.total (.closed k) : Int) + l'.share k =
    w.journal.total (.closed k) + l.share k

/-- The balance moves with the share of the link, so the two differ by what they did before. -/
theorem Accounts.balance {k : Kind} {l l' : Link} {w w' : World σ} (h : Accounts k l w l' w') :
    w'.journal.balance k - l'.share k = w.journal.balance k - l.share k := by
  have opened := h.opened
  have closed := h.closed
  simp only [Journal.balance]
  omega

/-- An operation that counts nothing and leaves the share of the link alone. -/
theorem Accounts.of_journal_eq {k : Kind} {l l' : Link} {w w' : World σ}
    (journal : w'.journal = w.journal) (share : l'.share k = l.share k) : Accounts k l w l' w' :=
  ⟨by rw [journal], by rw [journal, share]⟩

/-- An operation that closes a link that was not closed, and counts that. -/
theorem Accounts.of_closing {k : Kind} {l l' : Link} {w w' : World σ} {n : Notice}
    (before : l.state ≠ .closed) (after : l'.state = .closed)
    (opened : w'.journal.total (.opened k) = w.journal.total (.opened k))
    (closed : w'.journal.total (.closed k) = w.journal.total (.closed k)) :
    Accounts k l w l' ((w'.count (.closed l.kind)).notify n) := by
  constructor
  · simp [opened]
  · rw [share_of_closed k l' after, share_of_not_closed k l before]
    by_cases own : l.kind = k <;> simp [closed, own]

/-- A commit closes its link only if the transport fails, and counts it closed then. -/
theorem commit_accounts (net : Fabric σ) (bytes : List UInt8) (k : Kind) (l : Link)
    (w : World σ) : Accounts k l w (l.commit net bytes w).2.1 (l.commit net bytes w).2.2 := by
  by_cases state : l.state = .opened
  · cases transport : l.transport with
    | none =>
      have unchanged : l.commit net bytes w = (.failed .connectionClosed, l, w) := by
        simp [commit, state, transport, Lifecycle.isOpen]
      rw [unchanged]
      exact .of_journal_eq rfl rfl
    | some t =>
      have sent := Transport.send_journal net bytes t w
      rw [commit_of_open net bytes l t w state transport]
      generalize t.send net bytes w = answer at sent ⊢
      obtain ⟨e | _, after⟩ := answer <;> dsimp only at sent
      · refine .of_closing (by simp [state]) rfl ?_ ?_ <;> simp [sent]
      · dsimp only
        split
        · exact .of_journal_eq sent rfl
        · exact .of_journal_eq sent rfl
  · rw [commit_of_not_open net bytes l w state]
    exact .of_journal_eq rfl rfl

theorem hangUp_journal (net : Fabric σ) (l : Link) (w : World σ) :
    (l.hangUp net w).2.journal = w.journal := by
  unfold hangUp
  split
  · rfl
  · exact Transport.shutdown_journal net _ w

/-- A close that is rejected counts nothing; any other counts, even if the shutdown fails. -/
theorem close_accounts (net : Fabric σ) (k : Kind) (l : Link) (w : World σ) :
    Accounts k l w (l.close net w).2.1 (l.close net w).2.2 := by
  by_cases state : l.state = .opened
  · have first : Lifecycle.opened.transition .closing = .ok .closing := rfl
    have second : Lifecycle.closing.transition .closed = .ok .closed := rfl
    simp only [close, state, first, second]
    refine .of_closing (by simp [state]) rfl ?_ ?_ <;> rw [hangUp_journal]
  · rw [close_of_not_open net l w state]
    exact .of_journal_eq rfl rfl

/-- Whatever is done with a link, it is counted closed just when it ceases to stand. -/
theorem perform_accounts (net : Fabric σ) (k : Kind) (d : Deed) (l : Link) (w : World σ) :
    Accounts k l w (l.perform net d w).2.1 (l.perform net d w).2.2 := by
  cases d with
  | commit bytes => exact commit_accounts net bytes k l w
  | close => exact close_accounts net k l w
  | record time =>
    rw [perform, record_link]
    exact .of_journal_eq rfl rfl

theorem release_opened (net : Fabric σ) (k : Kind) (l : Link) (w : World σ) :
    (l.release net w).journal.total (.opened k) = w.journal.total (.opened k) := by
  unfold release
  by_cases state : l.state = .closed <;> cases l.transport <;> simp [state]

/-- Dropping a link counts it closed exactly if it was not. -/
theorem release_closed (net : Fabric σ) (k : Kind) (l : Link) (w : World σ) :
    ((l.release net w).journal.total (.closed k) : Int) =
      w.journal.total (.closed k) + l.share k := by
  unfold release
  by_cases state : l.state = .closed
  · rw [share_of_closed k l state]
    cases l.transport <;> simp [state]
  · rw [share_of_not_closed k l state]
    by_cases own : l.kind = k <;> cases l.transport <;> simp [state, own]

/-- The drop makes up for a link that was never closed. -/
theorem release_balance (net : Fabric σ) (k : Kind) (l : Link) (w : World σ) :
    (l.release net w).journal.balance k = w.journal.balance k - l.share k := by
  have opened := release_opened net k l w
  have closed := release_closed net k l w
  simp only [Journal.balance]
  omega

/-- How often the operations of one link count a connection of a kind closed: those of
its life, each in a world of its own, and the drop at the end. -/
def closings (net : Fabric σ) (k : Kind) (l : Link) : List (World σ × Deed) → World σ → Int
  | [], last => (l.release net last).journal.total (.closed k) - last.journal.total (.closed k)
  | (w, d) :: rest, last =>
    (l.perform net d w).2.2.journal.total (.closed k) - w.journal.total (.closed k) +
      closings net k (l.perform net d w).2.1 rest last

/-- Over its life and its drop a link is counted closed as often as it stood. -/
theorem closings_eq_share (net : Fabric σ) (k : Kind) (l : Link) (life : List (World σ × Deed))
    (last : World σ) : l.closings net k life last = l.share k := by
  induction life generalizing l with
  | nil =>
    have released := release_closed net k l last
    simp only [closings]
    omega
  | cons o rest ih =>
    have counted := (perform_accounts net k o.2 l o.1).closed
    have others := ih (l.perform net o.2 o.1).2.1
    simp only [closings]
    omega

/-- What a connect has counted: an opened connection if it hands over a link, for the
kind of that link, and no closed one. A link that is handed over is open. -/
structure Connects (k : Kind) (w : World σ) (r : Outcome Link × World σ) : Prop where
  handed : ∀ l, r.1 = .done l → l.state = .opened
  opened : (r.2.journal.total (.opened k) : Int) =
    w.journal.total (.opened k) + r.1.weight (share k)
  closed : r.2.journal.total (.closed k) = w.journal.total (.closed k)

theorem Connects.balance {k : Kind} {w : World σ} {r : Outcome Link × World σ}
    (h : Connects k w r) :
    r.2.journal.balance k = w.journal.balance k + r.1.weight (share k) := by
  have opened := h.opened
  have closed := h.closed
  simp only [Journal.balance]
  omega

/-- An answer without a link, after which nothing was counted. -/
theorem Connects.failure (k : Kind) (w : World σ) (e : Error) :
    Connects k w ((.failed e, w) : Outcome Link × World σ) :=
  ⟨fun _ failed => (by cases failed), by simp [Outcome.weight], rfl⟩

/-- Another error is counted the same way. -/
theorem Connects.with_error {k : Kind} {w after : World σ} {e : Error}
    (h : Connects k w ((.failed e, after) : Outcome Link × World σ)) (other : Error) :
    Connects k w ((.failed other, after) : Outcome Link × World σ) :=
  ⟨fun _ failed => (by cases failed), h.opened, h.closed⟩

/-- Only the two totals of the world before matter. -/
theorem Connects.from {k : Kind} {w before : World σ} {r : Outcome Link × World σ}
    (h : Connects k before r)
    (opened : before.journal.total (.opened k) = w.journal.total (.opened k))
    (closed : before.journal.total (.closed k) = w.journal.total (.closed k)) :
    Connects k w r :=
  ⟨h.handed, by rw [h.opened, opened], by rw [h.closed, closed]⟩

/-- One connect counts an opened connection just if it hands over its link. -/
theorem connect_connects (net : Fabric σ) (k kind : Kind) (endpoint : Endpoint) (config : Config)
    (w : World σ) : Connects k w (connect net kind endpoint config w) := by
  have opened : (Transport.connect net endpoint config.connectTimeout
      (dialling kind endpoint w)).2.journal.total (.opened k) = w.journal.total (.opened k) := by
    simp [dialling]
  have closed : (Transport.connect net endpoint config.connectTimeout
      (dialling kind endpoint w)).2.journal.total (.closed k) = w.journal.total (.closed k) := by
    simp [dialling]
  rw [connect_eq]
  generalize Transport.connect net endpoint config.connectTimeout _ = answer at opened closed ⊢
  obtain ⟨t | e | p | _, after⟩ := answer <;> dsimp only at opened closed
  · constructor
    · rintro l ⟨⟩
      rfl
    · by_cases own : kind = k <;>
        simp [opened, own, Outcome.weight, share, standing, fresh]
    · simp [closed]
  all_goals
    constructor
    · rintro l ⟨⟩
    · simp [opened, refuse, Outcome.weight]
    · simp [closed, refuse]

theorem connectArqTo_connects (net : Fabric σ) (k : Kind) (config : Config) (ip : String)
    (w : World σ) : Connects k w (connectArqTo net config ip w) :=
  connect_connects net k .arq ⟨ip, config.arqPort⟩ config w

theorem connectArq_connects (net : Fabric σ) (k : Kind) (config : Config) (env : Environment)
    (w : World σ) : Connects k w (connectArq net config env w) := by
  unfold connectArq
  split
  next e _ => exact .failure k w e
  next ip _ => exact connectArqTo_connects net k config ip w

theorem connectSimTo_connects (net : Fabric σ) (k : Kind) (config : Config) (endpoint : Endpoint)
    (w : World σ) : Connects k w (connectSimTo net config endpoint w) :=
  connect_connects net k .sim endpoint config w

theorem connectSim_connects (net : Fabric σ) (k : Kind) (config : Config) (env : Environment)
    (w : World σ) : Connects k w (connectSim net config env w) := by
  unfold connectSim
  split
  next e _ => exact .failure k w e
  next endpoint _ => exact connectSimTo_connects net k config endpoint w

/-- Failed attempts leave both totals alone, so only the last one matters. -/
theorem attempt_connects (net : Fabric σ) (k : Kind) (config : Config) (endpoint : Endpoint)
    (number : UInt64) (w : World σ) : Connects k w (attempt net config endpoint number w) := by
  have made := connect_connects net k .quiggeldy endpoint config
  fun_induction attempt net config endpoint number w with
  | case1 number w e after answer transient more ih =>
    have first := answer ▸ made w
    have opened := first.opened
    have closed := first.closed
    simp only [Outcome.weight] at opened
    refine ih.from ?_ ?_
    · simp only [prepareRetry, World.total_pause, World.total_notify]
      omega
    · simpa [prepareRetry] using closed
  | case2 number w e after answer transient last => exact (answer ▸ made w).with_error _
  | case3 number w e after answer lasting => exact answer ▸ made w
  | case4 number w other => exact made w

theorem connectDaemonTo_connects (net : Fabric σ) (k : Kind) (config : Config)
    (endpoint : Endpoint) (w : World σ) : Connects k w (connectDaemonTo net config endpoint w) :=
  attempt_connects net k config endpoint 1 w

theorem connectDaemon_connects (net : Fabric σ) (k : Kind) (config : Config) (env : Environment)
    (w : World σ) : Connects k w (connectDaemon net config env w) := by
  unfold connectDaemon
  split
  next e _ => exact .failure k w e
  next => exact .failure k w _
  next endpoint _ => exact connectDaemonTo_connects net k config endpoint w

theorem releaseAll_balance (net : Fabric σ) (k : Kind) (ls : List Link) (w : World σ) :
    (releaseAll net ls w).journal.balance k = w.journal.balance k - (ls.map (share k)).sum := by
  induction ls generalizing w with
  | nil => simp [releaseAll]
  | cons l rest ih =>
    have rested := ih (l.release net w)
    have released := release_balance net k l w
    simp only [releaseAll, List.foldl_cons, List.map_cons, List.sum_cons] at rested ⊢
    omega

end Link

namespace NetworkConnector

open Link

theorem connectTo_connects (net : Fabric σ) (k : Kind) (c : NetworkConnector) (s : Selection)
    (w : World σ) : Connects k w (c.connectTo net s w) := by
  cases s with
  | daemon endpoint => exact connectDaemonTo_connects net k c.config endpoint w
  | hardware ip => exact connectArqTo_connects net k c.config ip w
  | simulation endpoint => exact connectSimTo_connects net k c.config endpoint w

theorem connectSelected_connects (net : Fabric σ) (k : Kind) (c : NetworkConnector)
    (w : World σ) : Connects k w (c.connectSelected net w) := by
  unfold connectSelected
  split
  next e _ => exact .failure k w e
  next s _ =>
    have made := connectTo_connects net k c s
      ((w.notify (.selected s)).emit (.began .connectingSelected))
    rw [World.within_eq]
    exact ⟨made.handed, by simpa using made.opened, by simpa using made.closed⟩

theorem connectSimulator_connects (net : Fabric σ) (k : Kind) (c : NetworkConnector)
    (host : Option String) (port : Option UInt16) (w : World σ) :
    Connects k w (c.connectSimulator net host port w) := by
  unfold connectSimulator
  split
  next host port => exact connectSimTo_connects net k c.config ⟨host, port⟩ w
  next => exact .failure k w _

theorem answer_connects (net : Fabric σ) (k : Kind) (c : NetworkConnector) (call : Call)
    (w : World σ) : Connects k w (c.answer net call w) := by
  cases call with
  | fromEnvironment => exact connectSelected_connects net k c w
  | arq => exact connectArq_connects net k c.config (c.environment w) w
  | arqTo ip => exact connectArqTo_connects net k c.config ip w
  | sim => exact connectSim_connects net k c.config (c.environment w) w
  | simTo host port => exact connectSimulator_connects net k c host port w

/-- The balance of a kind follows the links that this connector hands out. -/
theorem connector_follows (net : Fabric σ) (k : Kind) (c : NetworkConnector) :
    Context.Follows (fun w => w.journal.balance k) (share k) (c.connector net) where
  made call w := (answer_connects net k c call w).balance
  dropped l w := release_balance net k l w
  unmoved s e written w := by
    simp only [Context.writes, List.mem_cons, List.not_mem_nil, or_false] at written
    rcases written with rfl | rfl | rfl | rfl | rfl | rfl <;> simp [Journal.balance]

/-- The links that an outcome hands over contribute what was counted. -/
theorem connectEach_balance (net : Fabric σ) (k : Kind) (c : NetworkConnector)
    (selections : List Selection) (opened : List Link) (w : World σ) :
    (c.connectEach net selections opened w).2.journal.balance k =
      w.journal.balance k - (opened.map (share k)).sum +
        (c.connectEach net selections opened w).1.weight (fun ls => (ls.map (share k)).sum) := by
  induction selections generalizing opened w with
  | nil => simp [connectEach, Outcome.weight]
  | cons s rest ih =>
    have first := (connectTo_connects net k c s w).balance
    unfold connectEach
    generalize c.connectTo net s w = answer at first ⊢
    obtain ⟨l | e | p | _, after⟩ := answer
    · have others := ih (opened ++ [l]) after
      simp only [List.map_append, List.sum_append, List.map_cons, List.map_nil, List.sum_cons,
        List.sum_nil, Outcome.weight] at first others ⊢
      omega
    all_goals
      have released := releaseAll_balance net k opened after
      simp only [Outcome.weight] at first ⊢
      omega

/-- All links of a list that is handed over are open, if those opened before are. -/
theorem connectEach_handed (net : Fabric σ) (c : NetworkConnector)
    (selections : List Selection) (opened ls : List Link) (w : World σ)
    (sofar : ∀ l ∈ opened, l.state = .opened)
    (handed : (c.connectEach net selections opened w).1 = .done ls) :
    ∀ l ∈ ls, l.state = .opened := by
  induction selections generalizing opened w with
  | nil =>
    obtain rfl : opened = ls := Outcome.done.inj handed
    exact sofar
  | cons s rest ih =>
    have first := (connectTo_connects net .arq c s w).handed
    unfold connectEach at handed
    generalize c.connectTo net s w = answer at first handed
    obtain ⟨l | e | p | _, after⟩ := answer
    · refine ih (opened ++ [l]) after (fun other found => ?_) handed
      rcases List.mem_append.mp found with before | last
      · exact sofar other before
      · obtain rfl : other = l := by simpa using last
        exact first other rfl
    all_goals cases handed

/-- A list counts as many opened connections as it hands over; links that are dropped on
failure cancel out. -/
theorem connectAll_balance (net : Fabric σ) (k : Kind) (c : NetworkConnector) (limit : Option Nat)
    (w : World σ) :
    (c.connectAll net limit w).2.journal.balance k = w.journal.balance k +
      (c.connectAll net limit w).1.weight (fun ls => (ls.map (share k)).sum) := by
  unfold connectAll
  split
  next e _ => simp [Outcome.weight]
  next selections _ => simpa using connectEach_balance net k c selections [] w

theorem connectAll_handed (net : Fabric σ) (c : NetworkConnector) (limit : Option Nat)
    (w : World σ) (ls : List Link) (handed : (c.connectAll net limit w).1 = .done ls) :
    ∀ l ∈ ls, l.state = .opened := by
  unfold connectAll at handed
  split at handed
  · cases handed
  next selections _ => exact connectEach_handed net c selections [] ls w (by simp) handed

end NetworkConnector
end Tether
