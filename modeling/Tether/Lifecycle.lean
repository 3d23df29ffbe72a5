/-!
# The life of a connection

A connection is set up, used and shut down in this order. Closing is allowed
from everywhere, and nothing leads out of the closed state but closing again.
-/
namespace Tether

inductive Lifecycle where
  | initial | connecting | opened | closing | closed
  deriving DecidableEq, Repr

namespace Lifecycle

def text : Lifecycle → String
  | initial => "initial"
  | connecting => "connecting"
  | opened => "open"
  | closing => "closing"
  | closed => "closed"

def name : Lifecycle → String
  | initial => "Initial"
  | connecting => "Connecting"
  | opened => "Open"
  | closing => "Closing"
  | closed => "Closed"

/-- Whether the second state may follow the first. -/
def allows : Lifecycle → Lifecycle → Bool
  | initial, connecting => true
  | connecting, opened => true
  | opened, closing => true
  | _, closed => true
  | _, _ => false

def isOpen (s : Lifecycle) : Bool := s == opened

end Lifecycle
end Tether
