import Tether.Environment.Settings
import Tether.World

/-!
# Reading the log level

A variable that is set to something else than a level is ignored, with a warning.
-/
namespace Tether.Environment

def readLevel {σ : Type} (env : Environment) (name : String) (w : World σ) :
    Option Nat × World σ :=
  match env.get name with
  | none => (none, w)
  | some value =>
    match LogLevel.parse? value with
    | none => (none, w.notify (.logLevelIgnored name value))
    | some level => (some level, w)

end Tether.Environment
