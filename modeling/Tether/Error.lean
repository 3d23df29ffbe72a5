import Tether.Duration.Text
import Tether.Endpoint
import Tether.Error.Fault
import Tether.Lifecycle

/-!
# Errors

Each error is a cause. Its wording is decided here and nowhere else: a category
for counters, a sentence for readers, and a form with named parts. A few causes
also come from outside as plain text (`stated`).
-/
namespace Tether

inductive EnvironmentFault where
  | noFpga (name : String)
  | severalFpgas (name : String)
  | noSimulator (name : String)
  | noDaemonPort (name : String)
  | daemonNotEnabled
  | invalidPort (name value : String)
  | noBackend (names : String)
  | stated (text : String)
  deriving DecidableEq, Repr

def EnvironmentFault.text : EnvironmentFault → String
  | noFpga v => "no FPGA IP found in environment (" ++ v ++ ")"
  | severalFpgas v => "more than one FPGA IP found in environment (" ++ v ++ ")"
  | noSimulator v => "no simulator parameters found in environment (" ++ v ++ ")"
  | noDaemonPort v => "Quiggeldy enabled but " ++ v ++ " is not set"
  | daemonNotEnabled => "Quiggeldy is not enabled in environment"
  | invalidPort v s => "invalid port in " ++ v ++ ": " ++ Text.quoted s
  | noBackend vs => "no connection found in environment (set " ++ vs ++ ")"
  | stated t => t

inductive ConfigFault where
  | incompleteSimulator (host : Option String) (port : Option UInt16)
  | stated (text : String)
  deriving DecidableEq, Repr

def ConfigFault.text : ConfigFault → String
  | incompleteSimulator host port =>
    "simulator connection needs both an IP address and a port (got ip=" ++
      Text.optional (host.map Text.quoted) ++ ", port=" ++
      Text.optional (port.map Endpoint.portText) ++ ")"
  | stated t => t

/-- Why an operation does not fit the present state. -/
inductive StateFault where
  | notOpen (actual : Lifecycle)
  | noTransition (present next : Lifecycle)
  | alreadyEntered
  | stated (expected actual : String)
  deriving DecidableEq, Repr

namespace StateFault

def expected : StateFault → String
  | notOpen _ => Lifecycle.opened.text
  | noTransition present _ => "valid transition from " ++ present.name
  | alreadyEntered => "context without connection"
  | stated e _ => e

def actual : StateFault → String
  | notOpen s => s.text
  | noTransition _ next => next.name
  | alreadyEntered => "context already holds a connection"
  | stated _ a => a

end StateFault

/-- Why an operation of this library failed. -/
inductive Error where
  | io (fault : Fault)
  | config (fault : ConfigFault)
  | environment (fault : EnvironmentFault)
  | connectTimeout (endpoint : String) (timeout : Duration)
  | attemptsExhausted (endpoint : String) (attempts : UInt64) (source : Error)
  | connectionClosed
  | invalidState (fault : StateFault)
  deriving DecidableEq, Repr

/-- The kinds of error that counters tell apart. -/
inductive Category where
  | io | config | environment | timeout | attemptsExhausted | closed | invalidState
  deriving DecidableEq, Repr

def Category.text : Category → String
  | io => "io"
  | config => "config"
  | environment => "environment"
  | timeout => "timeout"
  | attemptsExhausted => "attempts_exhausted"
  | closed => "closed"
  | invalidState => "invalid_state"

namespace Error

def category : Error → Category
  | io _ => .io
  | config _ => .config
  | environment _ => .environment
  | connectTimeout _ _ => .timeout
  | attemptsExhausted _ _ _ => .attemptsExhausted
  | connectionClosed => .closed
  | invalidState _ => .invalidState

/-- Whether the same connect may succeed when tried again. -/
def isTransient : Error → Bool
  | io _ => true
  | connectTimeout _ _ => true
  | connectionClosed => true
  | _ => false

/-- The error as a sentence. -/
def text : Error → String
  | io f => "io error: " ++ f.text
  | config f => "invalid configuration: " ++ f.text
  | environment f => "environment error: " ++ f.text
  | connectTimeout e t => "connecting to " ++ e ++ " timed out after " ++ t.text
  | attemptsExhausted e n _ =>
    "gave up connecting to " ++ e ++ " after " ++ toString n.toNat ++ " attempts"
  | connectionClosed => "connection closed"
  | invalidState f => "invalid state: expected " ++ f.expected ++ ", got " ++ f.actual

def shown : Error → String
  | io f => Text.applied "Io" f.shown
  | config f => Text.applied "Config" (Text.quoted f.text)
  | environment f => Text.applied "Environment" (Text.quoted f.text)
  | connectTimeout e t =>
    Text.record "ConnectTimeout" [("endpoint", Text.quoted e), ("timeout", t.text)]
  | attemptsExhausted e n source =>
    Text.record "AttemptsExhausted"
      [("endpoint", Text.quoted e), ("attempts", toString n.toNat), ("source", source.shown)]
  | connectionClosed => "ConnectionClosed"
  | invalidState f =>
    Text.record "InvalidState"
      [("expected", Text.quoted f.expected), ("actual", Text.quoted f.actual)]

/-- The sentences of the errors behind an error, nearest first. -/
def sources : Error → List String
  | io f => [f.text]
  | attemptsExhausted _ _ source => source.text :: source.sources
  | _ => []

end Error

/-- Moves to the next state if the present one allows it. -/
def Lifecycle.transition (present next : Lifecycle) : Except Error Lifecycle :=
  if present.allows next then .ok next
  else .error (.invalidState (.noTransition present next))

end Tether
