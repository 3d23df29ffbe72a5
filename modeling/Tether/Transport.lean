import Tether.Outcome
import Tether.World

/-!
# Transports

A network is known by what it answers: to a connect, to bytes handed over, to a
flush and to a shutdown. Nothing is assumed about the answers, so every statement
about transports holds for any network. A transport is an open socket together
with the endpoint it was opened to.
-/
namespace Tether

/-- What a network answers to a connect. -/
inductive Reply where
  | connected (socket : Nat)
  | failed (fault : Fault)
  /-- No answer in the allowed time, or ever if there is no limit. -/
  | silent
  deriving DecidableEq, Repr

/-- A network with states of type `σ`. -/
structure Fabric (σ : Type) where
  connect : Endpoint → Option Duration → σ → Reply × σ
  /-- Hands over all bytes, or fails after some of them. -/
  write : Nat → List UInt8 → σ → Except Fault Unit × σ
  flush : Nat → σ → Except Fault Unit × σ
  shutdown : Nat → σ → Except Fault Unit × σ
  /-- The socket is no longer used by this side. -/
  release : Nat → σ → σ
  /-- The reading of a clock. -/
  now : σ → Duration

structure Transport where
  socket : Nat
  peer : Endpoint
  deriving DecidableEq, Repr

namespace Transport

variable {σ : Type}

/-- Opens a transport, within a time limit if there is one. -/
def connect (net : Fabric σ) (endpoint : Endpoint) (timeout : Option Duration) (w : World σ) :
    Outcome Transport × World σ :=
  match net.connect endpoint timeout w.net with
  | (.connected socket, s) => (.done ⟨socket, endpoint⟩, { w with net := s })
  | (.failed f, s) => (.failed (.io f), { w with net := s })
  | (.silent, s) =>
    match timeout with
    | some t => (.failed (.connectTimeout endpoint.text t), { w with net := s })
    | none => (.pending, { w with net := s })

/-- The answer of the network about a socket, as an answer of this library. -/
def answered (w : World σ) : Except Fault Unit × σ → Except Error Unit × World σ
  | (.ok (), s) => (.ok (), { w with net := s })
  | (.error f, s) => (.error (.io f), { w with net := s })

def write (net : Fabric σ) (bytes : List UInt8) (t : Transport) (w : World σ) :
    Except Error Unit × World σ :=
  answered w (net.write t.socket bytes w.net)

def flush (net : Fabric σ) (t : Transport) (w : World σ) : Except Error Unit × World σ :=
  answered w (net.flush t.socket w.net)

/-- Hands over all bytes and flushes. -/
def send (net : Fabric σ) (bytes : List UInt8) (t : Transport) (w : World σ) :
    Except Error Unit × World σ :=
  match t.write net bytes w with
  | (.ok (), w) => t.flush net w
  | failure => failure

def shutdown (net : Fabric σ) (t : Transport) (w : World σ) : Except Error Unit × World σ :=
  answered w (net.shutdown t.socket w.net)

def release (net : Fabric σ) (t : Transport) (w : World σ) : World σ :=
  { w with net := net.release t.socket w.net }

/-- Transports talk to the network alone: none of their operations writes an event. -/
@[simp] theorem connect_journal (net : Fabric σ) (endpoint : Endpoint)
    (timeout : Option Duration) (w : World σ) :
    (connect net endpoint timeout w).2.journal = w.journal := by
  unfold connect
  split
  · rfl
  · rfl
  · split <;> rfl

@[simp] theorem answered_journal (w : World σ) (r : Except Fault Unit × σ) :
    (answered w r).2.journal = w.journal := by
  unfold answered
  split <;> rfl

/-- The bytes and the flush leave no trace in the journal, whichever of them fails. -/
@[simp] theorem send_journal (net : Fabric σ) (bytes : List UInt8) (t : Transport)
    (w : World σ) : (t.send net bytes w).2.journal = w.journal := by
  have written : (t.write net bytes w).2.journal = w.journal := answered_journal _ _
  unfold send
  split
  next after sent =>
    rw [sent] at written
    exact (answered_journal _ _).trans written
  · exact written

@[simp] theorem shutdown_journal (net : Fabric σ) (t : Transport) (w : World σ) :
    (t.shutdown net w).2.journal = w.journal := answered_journal _ _

@[simp] theorem release_journal (net : Fabric σ) (t : Transport) (w : World σ) :
    (t.release net w).journal = w.journal := rfl

end Transport
end Tether
