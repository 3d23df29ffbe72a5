import Tether.Kind
import Tether.Part
import Tether.Strategy

/-!
# Spans

A span is a stretch of work that has a name in the log. Spans nest, and what is
written during one is written within it.
-/
namespace Tether

/-- Work that has a name in the log. -/
inductive Span where
  | entering (strategy : Strategy)
  | connectingSelected
  | connecting (kind : Kind) (endpoint : Endpoint)
  deriving DecidableEq, Repr

namespace Span

def name : Span → String
  | entering _ => "enter"
  | connectingSelected => "connect_from_env"
  | connecting _ _ => "connect"

def part : Span → Part
  | entering _ => .context
  | connectingSelected => .network
  | connecting _ _ => .link

def details : Span → List (String × String)
  | entering s => [("strategy", s.text)]
  | connectingSelected => []
  | connecting k e => [("kind", k.label), ("endpoint", e.text)]

end Span
end Tether
