import Tether.Connector.Network
import Tether.Context
import Tether.Probe.Filter

/-!
# The probe

A program that connects once and reports what it reached. Its arguments name a
strategy; without any, the environment decides. The log shows what the directives
in `RUST_LOG` admit, and else what the daemon's log level admits.
-/
namespace Tether.Probe

def directivesVariable : String := "RUST_LOG"

def directives (env : Environment) : List Directive :=
  match (env.get directivesVariable).bind Directive.parseAll? with
  | some ds => ds
  | none =>
    match env.level? Variable.logLevel with
    | some level => [{ threshold := some (LogLevel.filter level) }]
    | none => [{ threshold := some .info }]

inductive ArgumentFault where
  | invalidPort (fault : Text.NumeralFault)
  | unknownStrategy (word : String)
  deriving DecidableEq, Repr

def ArgumentFault.text : ArgumentFault → String
  | invalidPort f => "invalid port: " ++ f.message
  | unknownStrategy word => "unknown strategy '" ++ word ++ "', expected auto, arq or sim"

/-- The strategy that the arguments name. -/
def strategy : List String → Except ArgumentFault Strategy
  | [] => .ok .auto
  | word :: rest =>
    if word = "auto" then .ok .auto
    else if word = "arq" then .ok (.arq rest[0]?)
    else if word = "sim" then
      match rest[1]? with
      | none => .ok (.sim rest[0]? none)
      | some port =>
        match Text.readPort port.toList with
        | .ok n => .ok (.sim rest[0]? (some n))
        | .error f => .error (.invalidPort f)
    else .error (.unknownStrategy word)

def describe (l : Link) : String :=
  l.kind.name ++ " at " ++ l.peer.text ++ " (targets: " ++
    String.intercalate ", " (l.kind.supported.map Restriction.text) ++ ")\n" ++ l.time.text

def linesOf (s : String) : List String := (s.toList.splitOn '\n').map String.ofList

inductive Ending where
  | report (text : String)
  | argument (fault : ArgumentFault)
  | error (error : Error)
  | panic (panic : Panic)
  | pending
  deriving DecidableEq, Repr

namespace Ending

def ofOutcome : Outcome String → Ending
  | .done s => report s
  | .failed e => error e
  | .panicked p => panic p
  | .pending => pending

/-- Zero for a report. -/
def exitCode : Ending → Nat
  | report _ => 0
  | panic _ => 101
  | _ => 1

def lines : Ending → List String
  | report s => linesOf s
  | _ => []

def complaint : Ending → String
  | argument f => "Error: " ++ Text.quoted f.text ++ "\n"
  | error e => "Error: " ++ e.shown ++ "\n"
  | panic p => p.text ++ "\n"
  | _ => ""

end Ending

def connect {σ : Type} (net : Fabric σ) (s : Strategy) (w : World σ) : Outcome String × World σ :=
  let c : NetworkConnector := {}
  let ctx : Context Link := { strategy := s }
  let (result, ctx, w) :=
    ctx.run (c.connector net) (fun l w => (.done (describe l), l, w)) w
  (result, ctx.release (c.connector net) w)

def run {σ : Type} (net : Fabric σ) (arguments : List String) (w : World σ) : Ending × World σ :=
  match strategy arguments with
  | .error f => (.argument f, w)
  | .ok s =>
    let (result, w) := connect net s (w.notify (.probing s))
    (.ofOutcome result, w)

def shown (ds : List Directive) (j : Journal) : List Notice :=
  (j.messages.filter fun m => Directive.shows ds m.1 m.2).map (·.1)

/-- The lines that are written and begin no message: those in which messages go on whose
texts have line feeds, and the report. -/
def plainLines (shown : List Notice) (e : Ending) : List String :=
  shown.flatMap (fun n => (linesOf n.line).tail) ++ e.lines

end Tether.Probe
