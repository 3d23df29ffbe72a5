/-!
# Parts of the program

Each part of the program speaks under a path. Paths nest: the path of a part begins
with the path of the part that it belongs to.
-/
namespace Tether

inductive Part where
  | environment | link | daemon | network | context | probe
  deriving DecidableEq, Repr

def Part.path : Part → String
  | environment => "hxcomm_context::env"
  | link => "hxcomm_context::connection::conn"
  | daemon => "hxcomm_context::connection::quiggeldy"
  | network => "hxcomm_context::client::network"
  | context => "hxcomm_context::context"
  | probe => "probe"

end Tether
