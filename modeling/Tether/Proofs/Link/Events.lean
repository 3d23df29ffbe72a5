import Tether.Proofs.Link.Counters

/-!
# What a link writes

A link that is in use writes only when its use ends: when the transport fails a commit,
when it is closed, and when it is dropped before either. Each of these adds a few events
to the journal, known from the link and from what the network answered; everything else
that is done with a link adds none.
-/
namespace Tether.Link

variable {σ : Type}

/-- The error of a commit that fails in the transport. A link that is not open sends
nothing, so nothing can fail there. -/
def commitError? (net : Fabric σ) (bytes : List UInt8) (l : Link) (w : World σ) : Option Error :=
  match l.state, l.transport with
  | .opened, some t => (net.sendFault? t.socket bytes w.net).map .io
  | _, _ => none

theorem commitError?_of_open (net : Fabric σ) (bytes : List UInt8) (l : Link) (t : Transport)
    (w : World σ) (state : l.state = .opened) (transport : l.transport = some t) :
    l.commitError? net bytes w = (net.sendFault? t.socket bytes w.net).map .io := by
  simp only [commitError?, state, transport]

theorem commitError?_of_not_open (net : Fabric σ) (bytes : List UInt8) (l : Link) (w : World σ)
    (state : l.state ≠ .opened) : l.commitError? net bytes w = none := by
  unfold commitError?
  split
  next opened _ => exact absurd opened state
  next => rfl

/-- A transport fails by a fault of the system. -/
theorem commitError?_io (net : Fabric σ) (bytes : List UInt8) (l : Link) (w : World σ) (e : Error)
    (h : l.commitError? net bytes w = some e) : ∃ fault, e = .io fault := by
  unfold commitError? at h
  split at h
  next t _ _ =>
    obtain ⟨fault, -, io⟩ := Option.map_eq_some_iff.mp h
    exact ⟨fault, io.symm⟩
  next => cases h

def breakdown (l : Link) (e : Error) : Journal :=
  [.notice (.transportFailed l.kind l.peer e), .count (.closed l.kind),
   .count (.errors l.kind e.category)]

/-- A commit that succeeds leaves no event, and one that fails only those of giving up the
link. -/
theorem commit_journal (net : Fabric σ) (bytes : List UInt8) (l : Link) (w : World σ) :
    (l.commit net bytes w).2.2.journal =
      ((l.commitError? net bytes w).elim [] l.breakdown) ++ w.journal := by
  by_cases state : l.state = .opened
  · cases transport : l.transport with
    | none => simp [commit, commitError?, state, transport, Lifecycle.isOpen]
    | some t =>
      have quiet := Transport.send_journal net bytes t w
      rw [commit_of_open net bytes l t w state transport,
        commitError?_of_open net bytes l t w state transport]
      cases sent : net.sendFault? t.socket bytes w.net with
      | some fault =>
        rw [send_of_fault net t bytes w fault sent]
        exact congrArg (l.breakdown (.io fault) ++ ·) quiet
      | none =>
        rw [send_of_no_fault net t bytes w sent]
        dsimp only
        split
        · rfl
        · rfl
  · rw [commit_of_not_open net bytes l w state, commitError?_of_not_open net bytes l w state]
    rfl

/-- Only an open link is closed in order. Whether its shutdown fails makes no difference. -/
theorem close_journal (net : Fabric σ) (l : Link) (w : World σ) :
    (l.close net w).2.2.journal =
      (if l.state = .opened then
        [.notice (.closed l.kind l.peer), .count (.closed l.kind)] else []) ++ w.journal := by
  by_cases state : l.state = .opened
  · have first : Lifecycle.opened.transition .closing = .ok .closing := rfl
    have second : Lifecycle.closing.transition .closed = .ok .closed := rfl
    have hungUp := hangUp_journal net l w
    simp only [close, state, first, second, World.count, World.notify, World.emit, hungUp]
    rfl
  · rw [close_of_not_open net l w state, if_neg state]
    rfl

/-- A link that was closed before is dropped in silence. -/
theorem release_journal (net : Fabric σ) (l : Link) (w : World σ) :
    (l.release net w).journal =
      (if l.state = .closed then []
        else [.notice (.released l.kind l.peer), .count (.closed l.kind)]) ++ w.journal := by
  unfold release
  by_cases state : l.state = .closed <;> cases l.transport <;>
    simp [state, World.count, World.notify]

end Tether.Link
