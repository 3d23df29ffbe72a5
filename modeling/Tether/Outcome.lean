import Tether.Error

/-!
# Outcomes

An operation succeeds, fails with an error, panics, or never completes, in which
case whoever waits for it gives up and drops what it held. A panic is a broken
promise of the caller or a sum that is no duration; like an error, it has a cause.
-/
namespace Tether

inductive Panic where
  | durationOverflow
  | notEntered
  | noSuchSlot (size index : Nat)
  | emptySlot
  | setup (fault : Fault)
  | stated (text : String)
  deriving DecidableEq, Repr

def Panic.text : Panic → String
  | durationOverflow => "overflow when adding durations"
  | notEntered => "exit() called on a connection context that was not entered"
  | noSuchSlot size index =>
    "index out of bounds: the len is " ++ toString size ++ " but the index is " ++ toString index
  | emptySlot => "called `Option::unwrap()` on a `None` value"
  | setup f => "called `Result::unwrap()` on an `Err` value: " ++ f.shown
  | stated t => t

inductive Outcome (α : Type) where
  | done (value : α)
  | failed (error : Error)
  | panicked (panic : Panic)
  | pending
  deriving DecidableEq, Repr

namespace Outcome

def map {α β : Type} (f : α → β) : Outcome α → Outcome β
  | done a => done (f a)
  | failed e => failed e
  | panicked p => panicked p
  | pending => pending

def ofExcept {α : Type} : Except Error α → Outcome α
  | .ok a => done a
  | .error e => failed e

def isPanicked {α : Type} : Outcome α → Bool
  | panicked _ => true
  | _ => false

end Outcome
end Tether
