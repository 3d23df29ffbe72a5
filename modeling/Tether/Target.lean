/-!
# Execution targets

A connection executes on a target, and a program may be restricted to one kind
of target. Hardware behind a scheduling daemon is hardware as well.
-/
namespace Tether

/-- Where a connection can execute. -/
inductive Target where
  | hardware | hardwareNonInteractive | simulation
  deriving DecidableEq, Repr

/-- The kind of target that a program needs. -/
inductive Restriction where
  | hardware | simulation
  deriving DecidableEq, Repr

namespace Restriction

def all : List Restriction := [hardware, simulation]

def text : Restriction → String
  | hardware => "hardware"
  | simulation => "simulation"

end Restriction

namespace Target

def text : Target → String
  | hardware => "hardware"
  | hardwareNonInteractive => "hardware_non_interactive"
  | simulation => "simulation"

def satisfies : Target → Restriction → Bool
  | hardware, .hardware => true
  | hardwareNonInteractive, .hardware => true
  | simulation, .simulation => true
  | _, _ => false

end Target
end Tether
