import Tether.Outcome
import Tether.Strategy
import Tether.World

/-!
# Connectors

A connector answers calls with handles of its own type and takes them back. It
may fail, panic or never answer. Contexts know connectors only by these two
operations.
-/
namespace Tether

/-- Makes handles of type `η` in worlds over `σ`, and drops them. -/
structure Connector (σ η : Type) where
  connect : Call → World σ → Outcome η × World σ
  release : η → World σ → World σ

end Tether
