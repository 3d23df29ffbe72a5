import Std.Async.DNS
import Std.Async.TCP
import Tether.Probe.Replay

/-!
# The command line

Connects once and reports what was reached. Each connect that the run asks for is
made in the outside world, and the run then goes on with its reply; waits and
messages are carried out as they appear in its journal.
-/
namespace Tether.Main

open Std.Async

def carriedNumber : IO.Error → Nat
  | .alreadyExists _ n _ => n.toNat
  | .otherError n _ => n.toNat
  | .resourceBusy n _ => n.toNat
  | .resourceVanished n _ => n.toNat
  | .unsupportedOperation n _ => n.toNat
  | .hardwareFault n _ => n.toNat
  | .unsatisfiedConstraints n _ => n.toNat
  | .illegalOperation n _ => n.toNat
  | .protocolError n _ => n.toNat
  | .timeExpired n _ => n.toNat
  | .interrupted _ n _ => n.toNat
  | .noFileOrDirectory _ n _ => n.toNat
  | .invalidArgument _ n _ => n.toNat
  | .permissionDenied _ n _ => n.toNat
  | .resourceExhausted _ n _ => n.toNat
  | .inappropriateType _ n _ => n.toNat
  | .noSuchThing _ n _ => n.toNat
  | .unexpectedEof => 0
  | .userError _ => 0

/-- The system's number for a failed operation; some come negated, in 32 bits. -/
def errorNumber (e : IO.Error) : Nat :=
  if 2147483648 ≤ carriedNumber e then 4294967296 - carriedNumber e else carriedNumber e

def faultOf (e : IO.Error) : Fault :=
  if errorNumber e = 0 then .custom .uncategorized (toString e) else .system (errorNumber e)

def addresses (endpoint : Endpoint) : IO (List Std.Net.SocketAddress) :=
  match Std.Net.IPv4Addr.ofString endpoint.host with
  | some addr => return [.v4 { addr, port := endpoint.port }]
  | none => do
    let found ← (DNS.getAddrInfo endpoint.host (Endpoint.portText endpoint.port)).block
    return found.toList.map fun ip =>
      match ip with
      | .v4 addr => .v4 { addr, port := endpoint.port }
      | .v6 addr => .v6 { addr, port := endpoint.port }

/-- Connects to the first address that answers. -/
def connectFirst : List Std.Net.SocketAddress → IO Reply
  | [] => return .failed (.custom .invalidInput "could not resolve to any addresses")
  | addr :: rest => do
    try
      let client ← TCP.Socket.Client.mk
      (client.connect addr).block
      client.noDelay
      return .connected 0
    catch e =>
      if rest.isEmpty then return .failed (faultOf e) else connectFirst rest

def connect (endpoint : Endpoint) : IO Reply := do
  try connectFirst (← addresses endpoint)
  catch e => return .failed (faultOf e)

/-- Carries an event out that comes after some others. -/
def carryOut (ds : List Probe.Directive) (earlier : Journal) : Event → IO Unit
  | .notice n => if Probe.Directive.shows ds n earlier.spans then IO.println n.line else pure ()
  | .wait d => IO.sleep (UInt32.ofNat (Event.wait d).ticks)
  | _ => pure ()

def carryOutSince (ds : List Probe.Directive) (before : Nat) : Journal → IO Unit
  | [] => pure ()
  | e :: earlier => do
    if before ≤ earlier.length then
      carryOutSince ds before earlier
      carryOut ds earlier e

/-- Goes on with the replies so far; a number of events was carried out before. -/
partial def proceed (arguments : List String) (process : ProcessEnvironment)
    (replies : List Reply) (before : Nat) : IO Probe.Ending := do
  let (ending, world) := Probe.replay arguments process replies
  carryOutSince (Probe.directives (.ofProcess process)) before world.journal
  match world.net.wanted with
  | none => return ending
  | some endpoint =>
    let reply ← connect endpoint
    proceed arguments process (replies ++ [reply]) world.journal.length

def watched : List String :=
  [Variable.fpgaIps, Variable.simHost, Variable.simPort, Variable.daemonEnabled,
   Variable.daemonHost, Variable.daemonPort, Variable.logLevel, Probe.directivesVariable]

/-- The environment of this process, as far as runs look at it. -/
def environment : IO ProcessEnvironment :=
  watched.foldlM (fun p name => do
    match ← IO.getEnv name with
    | some value => return p.set name value
    | none => return p) {}

end Tether.Main

/-- Probes the backend that the arguments name. -/
def main (arguments : List String) : IO UInt32 := do
  let ending ← Tether.Main.proceed arguments (← Tether.Main.environment) [] 0
  match ending with
  | .report text => IO.println text
  | _ => IO.eprint ending.complaint
  return UInt32.ofNat ending.exitCode
