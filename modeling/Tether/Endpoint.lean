import Tether.Text.Quoted
import Tether.Text.Record

/-!
# Endpoints

A backend listens at a host, given by name or address, and a TCP port. The text
of an endpoint puts a colon between the two; hosts are not checked and may hold
colons themselves.
-/
namespace Tether

structure Endpoint where
  host : String
  port : UInt16
  deriving DecidableEq, Repr

namespace Endpoint

def portText (port : UInt16) : String := toString port.toNat

/-- Host and port with a colon between them. -/
def text (e : Endpoint) : String := e.host ++ ":" ++ portText e.port

def shown (e : Endpoint) : String :=
  Text.record "Endpoint" [("host", Text.quoted e.host), ("port", portText e.port)]

end Endpoint
end Tether
