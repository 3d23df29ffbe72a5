import Tether.Proofs.Holdings.Established

/-!
# Networks that are byte streams

A network is a byte stream if what it hands to a peer only ever grows by what is written: by
all bytes of a write that succeeds, and by a first part of those of a write that fails. A
wire is such a network. It takes bytes until it is full and breaks on the first that it has
no room for, and each byte takes it a nanosecond.
-/
namespace Tether

/-- A count of nanoseconds as a duration, or zero where there is none so long. -/
def Duration.ofNanos (n : Nat) : Duration := (ofParts? 0 n).getD .zero

/-- The bytes handed to the peers of sockets are ordered streams. -/
structure Fabric.Streams {σ : Type} (net : Fabric σ) (handed : Nat → σ → List UInt8) : Prop where
  written : ∀ socket bytes s, (net.write socket bytes s).1 = .ok () →
    handed socket (net.write socket bytes s).2 = handed socket s ++ bytes
  broken : ∀ socket bytes s f, (net.write socket bytes s).1 = .error f →
    ∃ part, part <+: bytes ∧ handed socket (net.write socket bytes s).2 = handed socket s ++ part
  flushed : ∀ socket s, handed socket (net.flush socket s).2 = handed socket s
  shut : ∀ socket s, handed socket (net.shutdown socket s).2 = handed socket s
  released : ∀ socket s, handed socket (net.release socket s) = handed socket s

structure Wire where
  handed : List UInt8 := []
  room : Nat
  deriving DecidableEq, Repr

namespace Wire

/-- Takes bytes as far as there is room. -/
def write (bytes : List UInt8) (w : Wire) : Except Fault Unit × Wire :=
  if bytes.length ≤ w.room then
    (.ok (), { handed := w.handed ++ bytes, room := w.room - bytes.length })
  else (.error .broken, { handed := w.handed ++ bytes.take w.room, room := 0 })

def fabric : Fabric Wire where
  connect _ _ w := (.connected 0, w)
  write _ bytes w := w.write bytes
  flush _ w := (.ok (), w)
  shutdown _ w := (.ok (), w)
  release _ w := w
  now w := .ofNanos w.handed.length

/-- A wire loses, reorders and repeats nothing, so the assumption on byte streams can be
met. -/
theorem fabric_streams : fabric.Streams fun _ w => w.handed where
  written socket bytes w done := by
    simp only [fabric, write] at done ⊢
    split
    next => rfl
    next full => rw [if_neg full] at done; cases done
  broken socket bytes w f failed := by
    simp only [fabric, write] at failed ⊢
    split
    next fits => rw [if_pos fits] at failed; cases failed
    next => exact ⟨_, List.take_prefix w.room bytes, rfl⟩
  flushed socket w := rfl
  shut socket w := rfl
  released socket w := rfl

def link : Link := .fresh .sim ⟨0, ⟨"host", 1⟩⟩

theorem link_established : Holdings.Established fabric link :=
  .single {} (.simTo ⟨"host", 1⟩) { net := { room := 0 } } rfl

end Wire
end Tether
