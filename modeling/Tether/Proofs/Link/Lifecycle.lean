import Tether.Link

/-!
# The life of a link

A link keeps its state and its transport in two fields. On every link that was
opened they agree: it is open and has its transport, or it is closed and has none.
A life is any sequence of commits, closes and records; each of them finds a world
of its own, so whatever else happens to the network, the clock and the journal in
between is covered. The agreement of the two fields decides what each operation can
answer, and some branches of the operations can then never be taken.
-/
namespace Tether

variable {σ : Type}

/-- A network answers bytes with the fault of the write or, once they are written, with that of
the flush; there is none if both succeed. -/
def Fabric.sendFault? (net : Fabric σ) (socket : Nat) (bytes : List UInt8) (s : σ) :
    Option Fault :=
  match net.write socket bytes s with
  | (.error fault, _) => some fault
  | (.ok (), written) =>
    match (net.flush socket written).1 with
    | .error fault => some fault
    | .ok () => none

namespace Link

/-- What can be done with a link before it is dropped. -/
inductive Deed where
  | commit (bytes : List UInt8)
  | close
  | record (time : TimeInfo)
  deriving DecidableEq, Repr

def perform (net : Fabric σ) : Deed → Link → World σ → Outcome Unit × Link × World σ
  | .commit bytes, l, w => l.commit net bytes w
  | .close, l, w => l.close net w
  | .record time, l, w => ((l.record time).1, (l.record time).2, w)

/-- The link after deeds, each done in a world of its own. -/
def after (net : Fabric σ) (l : Link) : List (World σ × Deed) → Link
  | [] => l
  | (w, d) :: rest => (l.perform net d w).2.1.after net rest

/-- The deeds of a life, each with its outcome. -/
def answers (net : Fabric σ) (l : Link) : List (World σ × Deed) → List (Deed × Outcome Unit)
  | [] => []
  | (w, d) :: rest => (d, (l.perform net d w).1) :: (l.perform net d w).2.1.answers net rest

/-- Whether a deed with its outcome ends the use of a link: a commit that fails, or a
close in any case. -/
def ends : Deed × Outcome Unit → Bool
  | (.commit _, .failed _) => true
  | (.close, _) => true
  | _ => false

/-- The two fields agree: the link has the transport it was opened over exactly while
it is open. -/
inductive Sound (t : Transport) (l : Link) : Prop
  | opened (state : l.state = .opened) (transport : l.transport = some t)
  | closed (state : l.state = .closed) (transport : l.transport = none)

/-- A link right after it was opened over a transport. -/
def fresh (kind : Kind) (t : Transport) : Link :=
  { kind, peer := t.peer, state := .opened, transport := some t }

/-- The world in which the transport of a link is asked for. -/
def dialling (kind : Kind) (endpoint : Endpoint) (w : World σ) : World σ :=
  (w.count (.attempts kind)).emit (.began (.connecting kind endpoint))

/-- Opening a link is opening its transport: the steps from the initial to the open
state never fail. -/
theorem connect_eq (net : Fabric σ) (kind : Kind) (endpoint : Endpoint) (config : Config)
    (w : World σ) :
    connect net kind endpoint config w =
      match Transport.connect net endpoint config.connectTimeout (dialling kind endpoint w) with
      | (.done t, w) =>
        (.done (fresh kind t),
          (((w.emit .ended).count (.connectDuration kind)).count (.opened kind)).notify
            (.established kind t.peer))
      | (.failed e, w) => (.failed e, refuse kind endpoint e (w.emit .ended))
      | (.panicked p, w) => (.panicked p, w.emit .ended)
      | (.pending, w) => (.pending, w.emit .ended) := by
  have first : Lifecycle.initial.transition .connecting = .ok .connecting := rfl
  have second : Lifecycle.connecting.transition .opened = .ok .opened := rfl
  simp only [connect, first, World.within_eq, establish, second, dialling]
  generalize Transport.connect net endpoint config.connectTimeout _ = answer
  rcases answer with ⟨t | e | p | _, after⟩ <;> rfl

/-- The bytes do not reach the transport. -/
theorem commit_of_not_open (net : Fabric σ) (bytes : List UInt8) (l : Link) (w : World σ)
    (h : l.state ≠ .opened) :
    l.commit net bytes w = (.failed (.invalidState (.notOpen l.state)), l, w) := by
  simp [commit, Lifecycle.isOpen, h]

/-- A commit on an open link fails exactly as its transport does, and closes then. -/
theorem commit_of_open (net : Fabric σ) (bytes : List UInt8) (l : Link) (t : Transport)
    (w : World σ) (state : l.state = .opened) (transport : l.transport = some t) :
    l.commit net bytes w =
      match t.send net bytes w with
      | (.error e, after) => (.failed e, l.abort net t e after)
      | (.ok (), after) =>
        match l.time.commit.add? ((net.now after.net).sub (net.now w.net)) with
        | none => (.panicked .durationOverflow, l, after)
        | some d => (.done (), { l with time := { l.time with commit := d } }, after) := by
  obtain ⟨kind, peer, found, carrier, time⟩ := l
  obtain rfl : found = .opened := state
  obtain rfl : carrier = some t := transport
  rfl

theorem close_of_not_open (net : Fabric σ) (l : Link) (w : World σ) (h : l.state ≠ .opened) :
    l.close net w = (.failed (.invalidState (.noTransition l.state .closing)), l, w) := by
  have refused : l.state.transition .closing =
      .error (.invalidState (.noTransition l.state .closing)) := by
    cases state : l.state with
    | opened => exact absurd state h
    | _ => rfl
  simp only [close, refused]

/-- Closing an open link always succeeds as far as its state goes; the answer is that
of the shutdown. -/
theorem close_of_open (net : Fabric σ) (l : Link) (t : Transport) (w : World σ)
    (state : l.state = .opened) (transport : l.transport = some t) :
    l.close net w =
      (.ofExcept (t.shutdown net w).1, { l with state := .closed, transport := none },
        ((t.release net (t.shutdown net w).2).count (.closed l.kind)).notify
          (.closed l.kind l.peer)) := by
  have first : Lifecycle.opened.transition .closing = .ok .closing := rfl
  have second : Lifecycle.closing.transition .closed = .ok .closed := rfl
  simp only [close, state, first, hangUp, transport, second]

/-- Recording changes nothing but the time. -/
theorem record_link (d : TimeInfo) (l : Link) :
    (l.record d).2 = { l with time := (l.time.accumulate d).register } := by
  unfold record
  split
  next total summed => rw [summed]; rfl
  next kept summed => rw [summed]; rfl

theorem fresh_sound (kind : Kind) (t : Transport) : Sound t (fresh kind t) := .opened rfl rfl

/-- Deeds keep the two fields in step, whatever the network answers. -/
theorem perform_sound (net : Fabric σ) (t : Transport) (d : Deed) (l : Link) (w : World σ)
    (h : Sound t l) : Sound t (l.perform net d w).2.1 := by
  cases d with
  | commit bytes =>
    cases h with
    | opened state transport =>
      rw [perform, commit_of_open net bytes l t w state transport]
      split
      · exact .closed rfl rfl
      · split
        · exact .opened state transport
        · exact .opened state transport
    | closed state transport =>
      rw [perform, commit_of_not_open net bytes l w (by simp [state])]
      exact .closed state transport
  | close =>
    cases h with
    | opened state transport =>
      rw [perform, close_of_open net l t w state transport]
      exact .closed rfl rfl
    | closed state transport =>
      rw [perform, close_of_not_open net l w (by simp [state])]
      exact .closed state transport
  | record time =>
    rw [perform, record_link]
    cases h with
    | opened state transport => exact .opened state transport
    | closed state transport => exact .closed state transport

/-- A link is closed after a deed if it was before or if the deed ended its use. -/
theorem perform_closed_iff (net : Fabric σ) (t : Transport) (d : Deed) (l : Link) (w : World σ)
    (h : Sound t l) :
    (l.perform net d w).2.1.state = .closed ↔
      l.state = .closed ∨ ends (d, (l.perform net d w).1) = true := by
  cases d with
  | commit bytes =>
    cases h with
    | opened state transport =>
      rw [perform, commit_of_open net bytes l t w state transport]
      split
      · simp [ends, abort]
      · split <;> simp [ends, state]
    | closed state transport =>
      rw [perform, commit_of_not_open net bytes l w (by simp [state])]
      simp [state]
  | close =>
    cases h with
    | opened state transport =>
      rw [perform, close_of_open net l t w state transport]
      simp [ends]
    | closed state transport =>
      rw [perform, close_of_not_open net l w (by simp [state])]
      simp [state]
  | record time =>
    rw [perform, record_link]
    simp [ends]

theorem after_append (net : Fabric σ) (l : Link) (life more : List (World σ × Deed)) :
    l.after net (life ++ more) = (l.after net life).after net more := by
  induction life generalizing l with
  | nil => rfl
  | cons o rest ih => exact ih _

/-- By induction on the life of the link. -/
theorem after_sound (net : Fabric σ) (t : Transport) (l : Link) (life : List (World σ × Deed))
    (h : Sound t l) : Sound t (l.after net life) := by
  induction life generalizing l with
  | nil => exact h
  | cons o rest ih => exact ih _ (perform_sound net t o.2 l o.1 h)

/-- A link is closed after a life if it was before or if some deed ended its use. -/
theorem after_closed_iff (net : Fabric σ) (t : Transport) (l : Link)
    (life : List (World σ × Deed)) (h : Sound t l) :
    (l.after net life).state = .closed ↔
      l.state = .closed ∨ ∃ a ∈ l.answers net life, ends a = true := by
  induction life generalizing l with
  | nil => simp [after, answers]
  | cons o rest ih =>
    obtain ⟨w, d⟩ := o
    have step := perform_closed_iff net t d l w h
    rw [after, ih _ (perform_sound net t d l w h), step]
    simp only [answers, List.mem_cons, exists_eq_or_imp, or_assoc]

/-- The first fault of the network is the answer; there is no retry. -/
theorem send_result (net : Fabric σ) (t : Transport) (bytes : List UInt8) (w : World σ) :
    (t.send net bytes w).1 =
      match net.sendFault? t.socket bytes w.net with
      | some fault => .error (.io fault)
      | none => .ok () := by
  unfold Transport.send Transport.write Transport.flush Fabric.sendFault?
  rcases net.write t.socket bytes w.net with ⟨fault | _, written⟩
  · rfl
  · dsimp only [Transport.answered]
    rcases net.flush t.socket written with ⟨fault | _, flushed⟩ <;> rfl

theorem send_error_iff (net : Fabric σ) (t : Transport) (bytes : List UInt8) (w : World σ)
    (e : Error) :
    (t.send net bytes w).1 = .error e ↔
      ∃ fault, e = .io fault ∧ net.sendFault? t.socket bytes w.net = some fault := by
  rw [send_result]
  cases net.sendFault? t.socket bytes w.net with
  | none => simp
  | some fault => simp [eq_comm]

/-- Bytes that were sent were written and then flushed. -/
theorem send_of_no_fault (net : Fabric σ) (t : Transport) (bytes : List UInt8) (w : World σ)
    (sent : net.sendFault? t.socket bytes w.net = none) :
    t.send net bytes w =
      (.ok (), { w with net := (net.flush t.socket (net.write t.socket bytes w.net).2).2 }) := by
  unfold Fabric.sendFault? at sent
  unfold Transport.send Transport.write Transport.flush
  generalize net.write t.socket bytes w.net = answer at sent ⊢
  obtain ⟨fault | _, written⟩ := answer
  · cases sent
  · dsimp only [Transport.answered] at sent ⊢
    generalize net.flush t.socket written = answer at sent ⊢
    obtain ⟨fault | _, flushed⟩ := answer
    · cases sent
    · rfl

theorem send_of_fault (net : Fabric σ) (t : Transport) (bytes : List UInt8) (w : World σ)
    (fault : Fault) (unsent : net.sendFault? t.socket bytes w.net = some fault) :
    t.send net bytes w = (.error (.io fault), (t.send net bytes w).2) := by
  have result := send_result net t bytes w
  rw [unsent] at result
  exact Prod.ext result rfl

/-- A shutdown is answered as the network answers it. -/
theorem shutdown_result (net : Fabric σ) (t : Transport) (w : World σ) :
    (t.shutdown net w).1 = (net.shutdown t.socket w.net).1.mapError .io := by
  unfold Transport.shutdown
  rcases net.shutdown t.socket w.net with ⟨fault | _, after⟩ <;> rfl

/-- A transport opens exactly if the network gives it a socket. -/
theorem transport_connect_done_iff (net : Fabric σ) (endpoint : Endpoint)
    (timeout : Option Duration) (w : World σ) (t : Transport) :
    (Transport.connect net endpoint timeout w).1 = .done t ↔
      ∃ socket, t = ⟨socket, endpoint⟩ ∧
        (net.connect endpoint timeout w.net).1 = .connected socket := by
  unfold Transport.connect
  rcases net.connect endpoint timeout w.net with ⟨socket | fault | _, after⟩
  · simp [eq_comm]
  · simp
  · cases timeout <;> simp

/-- A transport fails to open by a fault that the network reports, or by a time limit that
is over. -/
theorem transport_connect_failed_iff (net : Fabric σ) (endpoint : Endpoint)
    (timeout : Option Duration) (w : World σ) (e : Error) :
    (Transport.connect net endpoint timeout w).1 = .failed e ↔
      (∃ fault, e = .io fault ∧ (net.connect endpoint timeout w.net).1 = .failed fault) ∨
      ∃ limit, e = .connectTimeout endpoint.text limit ∧ timeout = some limit ∧
        (net.connect endpoint timeout w.net).1 = .silent := by
  unfold Transport.connect
  rcases net.connect endpoint timeout w.net with ⟨socket | fault | _, after⟩
  · simp
  · simp [eq_comm]
  · cases timeout <;> simp [eq_comm]

theorem connect_done (net : Fabric σ) (kind : Kind) (endpoint : Endpoint) (config : Config)
    (w : World σ) (l : Link) (h : (connect net kind endpoint config w).1 = .done l) :
    ∃ socket, (net.connect endpoint config.connectTimeout w.net).1 = .connected socket ∧
      l = fresh kind ⟨socket, endpoint⟩ := by
  have opened := transport_connect_done_iff net endpoint config.connectTimeout
    (dialling kind endpoint w)
  rw [connect_eq] at h
  generalize Transport.connect net endpoint config.connectTimeout _ = answer at h opened
  rcases answer with ⟨t | e | p | _, after⟩
  · obtain ⟨socket, rfl, connected⟩ := (opened t).mp rfl
    exact ⟨socket, connected, (Outcome.done.inj h).symm⟩
  all_goals cases h

/-- Opening a link fails exactly as the network refuses it, or is silent for too long. -/
theorem connect_failed_iff (net : Fabric σ) (kind : Kind) (endpoint : Endpoint)
    (config : Config) (w : World σ) (e : Error) :
    (connect net kind endpoint config w).1 = .failed e ↔
      (∃ fault, e = .io fault ∧
        (net.connect endpoint config.connectTimeout w.net).1 = .failed fault) ∨
      ∃ limit, e = .connectTimeout endpoint.text limit ∧ config.connectTimeout = some limit ∧
        (net.connect endpoint config.connectTimeout w.net).1 = .silent := by
  have refused := transport_connect_failed_iff net endpoint config.connectTimeout
    (dialling kind endpoint w) e
  rw [connect_eq, ← show (dialling kind endpoint w).net = w.net from rfl, ← refused]
  generalize Transport.connect net endpoint config.connectTimeout _ = answer
  rcases answer with ⟨t | e' | p | _, after⟩ <;> simp

/-- A commit that panics over its time has not failed: its bytes are sent. -/
theorem commit_failed_iff (net : Fabric σ) (bytes : List UInt8) (l : Link) (t : Transport)
    (w : World σ) (e : Error) (state : l.state = .opened) (transport : l.transport = some t) :
    (l.commit net bytes w).1 = .failed e ↔
      ∃ fault, e = .io fault ∧ net.sendFault? t.socket bytes w.net = some fault := by
  rw [commit_of_open net bytes l t w state transport, ← send_error_iff]
  rcases t.send net bytes w with ⟨e' | _, after⟩
  · simp
  · dsimp only
    split <;> simp

/-- What the operations on a link answer and leave behind, in every world. The link was
opened over the given transport. -/
structure Exact (net : Fabric σ) (t : Transport) (l : Link) : Prop where
  agree : (l.state = .opened ∧ l.transport = some t) ∨
    (l.state = .closed ∧ l.transport = none)
  commit_invalid_iff : ∀ bytes w,
    (∃ f, (l.commit net bytes w).1 = .failed (.invalidState f)) ↔ l.state ≠ .opened
  /-- A rejected commit names both states and changes nothing. -/
  commit_rejected : ∀ bytes w, l.state ≠ .opened → ∃ f : StateFault,
    l.commit net bytes w = (.failed (.invalidState f), l, w) ∧
      f.expected = Lifecycle.opened.text ∧ f.actual = l.state.text
  /-- A commit on an open link fails by a fault of the write or the flush, and by nothing else. -/
  commit_failed : ∀ bytes w e, l.state = .opened →
    ((l.commit net bytes w).1 = .failed e ↔
      ∃ fault, e = .io fault ∧ net.sendFault? t.socket bytes w.net = some fault)
  /-- The transport of an open link is never missing. -/
  commit_connected : ∀ bytes w, (l.commit net bytes w).1 ≠ .failed .connectionClosed
  close_invalid_iff : ∀ w,
    (∃ f, (l.close net w).1 = .failed (.invalidState f)) ↔ l.state ≠ .opened
  /-- A rejected close changes nothing. -/
  close_rejected : ∀ w, l.state ≠ .opened →
    l.close net w = (.failed (.invalidState (.noTransition l.state .closing)), l, w)
  /-- After a shutdown no step of the state fails; the answer is that of the network. -/
  close_answer : ∀ w, l.state = .opened →
    (l.close net w).1 = .ofExcept ((net.shutdown t.socket w.net).1.mapError .io)

theorem exact_of_opened (net : Fabric σ) (l : Link) (t : Transport) (state : l.state = .opened)
    (transport : l.transport = some t) : Exact net t l := by
  have commits := fun bytes (w : World σ) e =>
    commit_failed_iff net bytes l t w e state transport
  have closes : ∀ w, (l.close net w).1 =
      .ofExcept ((net.shutdown t.socket w.net).1.mapError .io) := fun w => by
    rw [close_of_open net l t w state transport, shutdown_result]
  refine
    { agree := .inl ⟨state, transport⟩
      commit_invalid_iff := fun bytes w => ⟨?_, fun h => absurd state h⟩
      commit_rejected := fun _ _ h => absurd state h
      commit_failed := fun bytes w e _ => commits bytes w e
      commit_connected := fun bytes w failed => ?_
      close_invalid_iff := fun w => ⟨?_, fun h => absurd state h⟩
      close_rejected := fun _ h => absurd state h
      close_answer := fun w _ => closes w }
  · rintro ⟨f, failed⟩
    obtain ⟨fault, io, -⟩ := (commits bytes w _).mp failed
    cases io
  · obtain ⟨fault, io, -⟩ := (commits bytes w _).mp failed
    cases io
  · rintro ⟨f, failed⟩
    rw [closes w] at failed
    cases answer : (net.shutdown t.socket w.net).1 with
    | ok u => rw [answer] at failed; cases failed
    | error fault => rw [answer] at failed; cases failed

theorem exact_of_closed (net : Fabric σ) (l : Link) (t : Transport) (state : l.state = .closed)
    (transport : l.transport = none) : Exact net t l := by
  have used : l.state ≠ .opened := by simp [state]
  have commits := fun bytes (w : World σ) => commit_of_not_open net bytes l w used
  have closes := fun (w : World σ) => close_of_not_open net l w used
  exact
    { agree := .inr ⟨state, transport⟩
      commit_invalid_iff := fun bytes w =>
        ⟨fun _ => used, fun _ => ⟨_, congrArg Prod.fst (commits bytes w)⟩⟩
      commit_rejected := fun bytes w _ => ⟨_, commits bytes w, rfl, rfl⟩
      commit_failed := fun _ _ _ h => absurd h used
      commit_connected := fun bytes w failed => by rw [commits bytes w] at failed; cases failed
      close_invalid_iff := fun w => ⟨fun _ => used, fun _ => ⟨_, congrArg Prod.fst (closes w)⟩⟩
      close_rejected := fun w _ => closes w
      close_answer := fun _ h => absurd h used }

/-- A sound link is open or closed for good, so its operations have just these two courses. -/
theorem Sound.exact {t : Transport} {l : Link} (net : Fabric σ) (h : Sound t l) :
    Exact net t l := by
  cases h with
  | opened state transport => exact exact_of_opened net l t state transport
  | closed state transport => exact exact_of_closed net l t state transport

/-- Opening fails only as the network has it. A link that was opened starts open over the socket
that the network gave; at every moment of its life its two fields agree and its operations answer
exactly; it is closed from the first failed commit or the first close on, and for good. -/
theorem open_until_first_end (net : Fabric σ) (kind : Kind) (endpoint : Endpoint)
    (config : Config) (w : World σ) :
    (∀ e, (connect net kind endpoint config w).1 = .failed e ↔
      (∃ fault, e = .io fault ∧
        (net.connect endpoint config.connectTimeout w.net).1 = .failed fault) ∨
      ∃ limit, e = .connectTimeout endpoint.text limit ∧ config.connectTimeout = some limit ∧
        (net.connect endpoint config.connectTimeout w.net).1 = .silent) ∧
    (∀ f, (connect net kind endpoint config w).1 ≠ .failed (.invalidState f)) ∧
    ∀ l, (connect net kind endpoint config w).1 = .done l → ∃ t : Transport,
      (net.connect endpoint config.connectTimeout w.net).1 = .connected t.socket ∧
      t.peer = endpoint ∧ l.state = .opened ∧ l.transport = some t ∧
      ∀ life : List (World σ × Deed),
        Exact net t (l.after net life) ∧
        ((l.after net life).state = .closed ↔ ∃ a ∈ l.answers net life, ends a = true) ∧
        ∀ more, (l.after net life).state = .closed →
          (l.after net (life ++ more)).state = .closed := by
  refine ⟨connect_failed_iff net kind endpoint config w, fun f failed => ?_, fun l opened => ?_⟩
  · rcases (connect_failed_iff net kind endpoint config w _).mp failed with
      ⟨fault, io, -⟩ | ⟨limit, late, -⟩
    · cases io
    · cases late
  · obtain ⟨socket, connected, rfl⟩ := connect_done net kind endpoint config w l opened
    have sound := fresh_sound kind ⟨socket, endpoint⟩
    refine ⟨⟨socket, endpoint⟩, connected, rfl, rfl, rfl, fun life =>
      ⟨(after_sound net _ _ life sound).exact net, ?_, fun more closed => ?_⟩⟩
    · rw [after_closed_iff net _ _ life sound]
      simp [fresh]
    · rw [after_append, after_closed_iff net _ _ more (after_sound net _ _ life sound)]
      exact .inl closed

end Link
end Tether
