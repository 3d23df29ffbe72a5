import Tether.Context

/-!
# Contexts over a scripted connector

A script lists what a connector does at its calls in order: hand out a fresh
handle, fail, panic, or never answer. Past its end every call succeeds. Handles
are numbered by the call that made them and carry a value, and the connector
keeps all calls and the handles that were dropped. A run takes one context
through a list of steps; an answer that never comes is given up at once.
-/
namespace Tether.Script

/-- What the connector does at one call. -/
inductive Cue where
  | handle
  | failure (error : Error)
  | panic (text : String)
  | silence
  deriving DecidableEq, Repr

/-- The number of the call that made the handle, from one, and a value. -/
structure Handle where
  id : Nat
  value : Int := 0
  deriving DecidableEq, Repr

structure State where
  /-- Calls, newest first. -/
  calls : List Call := []
  /-- Handles that were dropped, the last one first. -/
  dropped : List Handle := []
  deriving DecidableEq, Repr

def answer (script : List Cue) (call : Call) (w : World State) : Outcome Handle × World State :=
  let number := w.net.calls.length
  let w := { w with net := { w.net with calls := call :: w.net.calls } }
  match script[number]? with
  | some (.failure e) => (.failed e, w)
  | some (.panic t) => (.panicked (.stated t), w)
  | some .silence => (.pending, w)
  | some .handle => (.done { id := number + 1 }, w)
  | none => (.done { id := number + 1 }, w)

def connector (script : List Cue) : Connector State Handle where
  connect := answer script
  release h w := { w with net := { w.net with dropped := h :: w.net.dropped } }

/-- What a body does to its handle. -/
inductive Action where
  | add (n : Int)
  | fail (error : Error)
  | panic (text : String)
  deriving DecidableEq, Repr

/-- Performs actions in order up to the first that ends the body. -/
def perform : List Action → Handle → Outcome Handle × Handle
  | [], h => (.done h, h)
  | .add n :: rest, h => perform rest { h with value := h.value + n }
  | .fail e :: _, h => (.failed e, h)
  | .panic t :: _, h => (.panicked (.stated t), h)

def body (actions : List Action) : Context.Body State Handle Handle :=
  fun h w =>
    let (result, h) := perform actions h
    (result, h, w)

/-- A body of actions that then never completes. -/
def endlessBody (actions : List Action) : Context.Body State Handle Handle :=
  fun h w =>
    match perform actions h with
    | (.done _, h) => (.pending, h, w)
    | (result, h) => (result, h, w)

/-- A body whose failure is a result of its own, seen beside the handle's number. -/
def guardedBody (actions : List Action) :
    Context.Body State Handle (Nat × Except Error Handle) :=
  fun h w =>
    match perform actions h with
    | (.done r, h') => (.done (h.id, .ok r), h', w)
    | (.failed e, h') => (.done (h.id, .error e), h', w)
    | (.panicked p, h') => (.panicked p, h', w)
    | (.pending, h') => (.pending, h', w)

inductive Step where
  | enter
  | exit
  | scope (actions : List Action)
  /-- A scope whose guard is leaked. -/
  | scopeLeaked (actions : List Action)
  | run (actions : List Action)
  /-- A run whose body does not complete. -/
  | runEndless (actions : List Action)
  /-- A new context takes the place of the present one. -/
  | renew
  deriving DecidableEq, Repr

inductive Answer where
  | handle (h : Handle)
  | exited
  | scoped (id : Nat) (result : Except Error Handle)
  | renewed

structure Stage where
  context : Context Handle
  world : World State

def staged {α : Type} (f : α → Answer) :
    Outcome α × Context Handle × World State → Outcome Answer × Stage
  | (result, context, world) => (result.map f, { context, world })

def step (script : List Cue) (stage : Stage) : Step → Outcome Answer × Stage
  | .enter => staged .handle (stage.context.enter (connector script) stage.world)
  | .exit => staged (fun _ => .exited) (stage.context.exit (connector script) stage.world)
  | .scope actions =>
    staged (fun r => .scoped r.1 r.2)
      (stage.context.bracket (connector script) false (guardedBody actions) stage.world)
  | .scopeLeaked actions =>
    staged .handle (stage.context.bracket (connector script) true (body actions) stage.world)
  | .run actions =>
    staged .handle (stage.context.run (connector script) (body actions) stage.world)
  | .runEndless actions =>
    staged .handle (stage.context.run (connector script) (endlessBody actions) stage.world)
  | .renew =>
    (.done .renewed,
      { context := { strategy := stage.context.strategy }
        world := stage.context.release (connector script) stage.world })

structure Report where
  result : Outcome Answer
  held : Option Handle
  calls : Nat
  drops : Nat
  /-- The events of the step. -/
  events : Journal

def report (script : List Cue) (stage : Stage) (s : Step) : Report × Stage :=
  let (result, next) := step script stage s
  ({ result
     held := next.context.held
     calls := next.world.net.calls.length
     drops := next.world.net.dropped.length
     events := Journal.since stage.world.journal next.world.journal }, next)

def reports (script : List Cue) : List Step → Stage → List Report × Stage
  | [], stage => ([], stage)
  | s :: rest, stage =>
    let (r, stage) := report script stage s
    let (rs, stage) := reports script rest stage
    (r :: rs, stage)

def start (strategy : Strategy) : Stage := { context := { strategy }, world := { net := {} } }

end Tether.Script
