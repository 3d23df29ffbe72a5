import Tether.Environment.Settings
import Tether.Selection

/-!
# Which backend the environment selects

The daemon comes before hardware, and hardware before the simulator. The first of
them that is configured decides alone: a fault in its settings is an error and
never a reason to look at the next.
-/
namespace Tether.Environment

/-- The backend for a single connection. -/
def select (env : Environment) : Except Error Selection :=
  match env.daemon with
  | .error e => .error e
  | .ok (some e) => .ok (.daemon e)
  | .ok none =>
    if !env.fpgaIps.isEmpty then
      match env.fpgaIp with
      | .ok ip => .ok (.hardware ip)
      | .error e => .error e
    else if (env.get Variable.simPort).isSome then
      match env.simulator with
      | .ok e => .ok (.simulation e)
      | .error e => .error e
    else
      .error (.environment (.noBackend
        (Variable.daemonEnabled ++ ", " ++ Variable.fpgaIps ++ " or " ++ Variable.simPort)))

def limited (limit : Option Nat) (l : List Selection) : List Selection :=
  match limit with
  | none => l
  | some n => l.take n

/-- The backends for a list of connections: one for each listed FPGA, or else the
one for a single connection. -/
def selectAll (env : Environment) (limit : Option Nat) : Except Error (List Selection) :=
  match env.daemon with
  | .error e => .error e
  | .ok (some e) => .ok (limited limit [.daemon e])
  | .ok none =>
    if !env.fpgaIps.isEmpty then .ok (limited limit (env.fpgaIps.map .hardware))
    else
      match env.select with
      | .ok s => .ok (limited limit [s])
      | .error e => .error e

end Tether.Environment
