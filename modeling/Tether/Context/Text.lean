import Tether.Connector.Network
import Tether.Context

/-!
# The text of a context over a network
-/
namespace Tether.Context

def shown {η : Type} (ctx : Context η) (c : NetworkConnector) : String :=
  Text.record "ConnectionContext"
    [("strategy", ctx.strategy.shown), ("connector", c.shown),
     ("entered", if ctx.isEntered then "true" else "false")]

end Tether.Context
