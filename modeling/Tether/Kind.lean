import Tether.Target

/-!
# Kinds of connection

There are three: to an FPGA, to a simulator, and to a daemon that schedules
access to hardware.
-/
namespace Tether

/-- What stands at the other end of a connection. -/
inductive Kind where
  | arq | sim | quiggeldy
  deriving DecidableEq, Repr

namespace Kind

/-- The short name that counters carry. -/
def label : Kind → String
  | arq => "arq"
  | sim => "sim"
  | quiggeldy => "quiggeldy"

def name : Kind → String
  | arq => "ARQConnection"
  | sim => "SimConnection"
  | quiggeldy => "QuiggeldyClient"

/-- Where connections of this kind can execute. -/
def targets : Kind → List Target
  | arq => [.hardware]
  | sim => [.simulation]
  | quiggeldy => [.hardware]

def supports (k : Kind) (r : Restriction) : Bool := k.targets.any (·.satisfies r)

def supported (k : Kind) : List Restriction := Restriction.all.filter k.supports

end Kind
end Tether
