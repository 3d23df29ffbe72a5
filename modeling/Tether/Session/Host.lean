import Tether.Loopback
import Tether.Session

/-!
# Sessions on a host with peers

On a host of its own a session takes turns with the other side: its own steps, and
what the peers behind the listeners do. Each turn is answered and reported with
what it counted, wrote and waited, read off the journal.
-/
namespace Tether.Session

inductive Move where
  /-- Show what has arrived. -/
  | look (listener : Nat)
  | reset (listener : Nat)
  | close (listener : Nat)
  | stop (listener : Nat)
  | start (listener : Nat)
  deriving DecidableEq, Repr

inductive Seen where
  | received (l : List (List UInt8 × Bool))
  | number (n : Nat)
  | stopped
  | started
  deriving DecidableEq, Repr

def Move.apply (n : Loopback) : Move → Seen × Loopback
  | look i => (.received (n.arrived i), n)
  | reset i => (.number (n.arrived i).length, n.leave i .reset)
  | close i => (.number (n.arrived i).length, n.leave i .closed)
  | stop i => (.stopped, n.setListening i false)
  | start i => (.started, n.setListening i true)

/-- A step of the session or a move of the other side. -/
inductive Turn where
  | own (step : Step)
  | other (move : Move)
  deriving DecidableEq, Repr

inductive Reaction where
  | own (answer : Answer)
  | other (seen : Seen)

def State.take (s : State Loopback) : Turn → Outcome Reaction × State Loopback
  | .own todo =>
    let (result, s) := s.step Loopback.fabric todo
    (result.map .own, s)
  | .other move =>
    let (seen, net) := move.apply s.world.net
    (.done (.other seen), s.inWorld { s.world with net })

structure Report where
  result : Outcome Reaction
  entered : Bool
  /-- Milliseconds waited, if the clock stands still but for waits. -/
  waited : Option Nat
  events : Journal

/-- A turn and what can be seen after it. With a time limit on connects the clock
is a real one, and after a panic nobody looks at it. -/
def report (s : State Loopback) (turn : Turn) : Report × State Loopback :=
  let (result, next) := s.take turn
  let events := Journal.since s.world.journal next.world.journal
  ({ result
     entered := next.context.isEntered
     waited :=
       if s.connector.config.connectTimeout.isSome || result.isPanicked then none
       else some events.waited
     events }, next)

def reports : List Turn → State Loopback → List Report × State Loopback
  | [], s => ([], s)
  | turn :: rest, s =>
    let (r, s) := report s turn
    let (rs, s) := reports rest s
    (r :: rs, s)

structure Setup where
  config : Config := {}
  env : Option Environment := none
  process : ProcessEnvironment := {}
  strategy : Strategy := .auto
  listeners : List Listener := []

/-- The state before the first turn, on a host with a route or without. -/
def Setup.start (setup : Setup) (routed : Bool) : Outcome (State Loopback) :=
  match Loopback.start routed setup.listeners with
  | .error f => .panicked (.setup f)
  | .ok net =>
    .done { connector := { config := setup.config, env := setup.env }
            given := setup.env.getD {}
            context := { strategy := setup.strategy }
            world := { net, process := setup.process } }

/-- The reports of all turns, and the events of dropping what is left. -/
def Setup.run (setup : Setup) (routed : Bool) (turns : List Turn) :
    Outcome (List Report × Journal) :=
  (setup.start routed).map fun s =>
    let (rs, s) := reports turns s
    (rs, Journal.since s.world.journal (s.finish Loopback.fabric).world.journal)

end Tether.Session
