import Tether.Endpoint

/-!
# Selected backends
-/
namespace Tether

/-- A backend to connect to. FPGAs all listen at the same port, so their address
is enough. -/
inductive Selection where
  | daemon (endpoint : Endpoint)
  | hardware (ip : String)
  | simulation (endpoint : Endpoint)
  deriving DecidableEq, Repr

def Selection.shown : Selection → String
  | daemon e => Text.applied "Quiggeldy" e.shown
  | hardware ip => Text.record "Hardware" [("ip", Text.quoted ip)]
  | simulation e => Text.applied "Simulation" e.shown

end Tether
