import Tether.Duration.Text
import Tether.Endpoint

/-!
# Connection settings that do not come from the environment
-/
namespace Tether

/-- The wait between two tries if nothing else is set: one second. -/
def defaultWait : Duration := .ofMillis 1000

structure Config where
  /-- How long a connect may take; no limit if missing. -/
  connectTimeout : Option Duration := none
  /-- The port that FPGAs listen at. -/
  arqPort : UInt16 := 1234
  /-- How often a connect to the daemon is tried; at least once in any case. -/
  attemptsMax : UInt64 := 10
  /-- The wait between two tries. -/
  attemptWait : Duration := defaultWait
  deriving DecidableEq, Repr

namespace Config

instance : Inhabited Config := ⟨{}⟩

/-- The number of tries: the setting, or one where it is zero. -/
def attempts (c : Config) : UInt64 := if c.attemptsMax = 0 then 1 else c.attemptsMax

/-- One setting, to be put in place of the present one. -/
inductive Setting where
  | connectTimeout (d : Duration)
  | arqPort (port : UInt16)
  | attemptsMax (n : UInt64)
  | attemptWait (d : Duration)
  deriving DecidableEq, Repr

def set (c : Config) : Setting → Config
  | .connectTimeout d => { c with connectTimeout := some d }
  | .arqPort port => { c with arqPort := port }
  | .attemptsMax n => { c with attemptsMax := n }
  | .attemptWait d => { c with attemptWait := d }

/-- The defaults with settings made in order. -/
def ofSettings (settings : List Setting) : Config := settings.foldl set {}

def shown (c : Config) : String :=
  Text.record "ConnectionConfig"
    [("connect_timeout", Text.optional (c.connectTimeout.map Duration.text)),
     ("arq_port", Endpoint.portText c.arqPort),
     ("connection_attempts_max", toString c.attemptsMax.toNat),
     ("connection_attempt_wait_after", c.attemptWait.text)]

end Config
end Tether
