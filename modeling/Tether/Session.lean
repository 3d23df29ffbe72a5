import Tether.Context
import Tether.Session.Handle

/-!
# Sessions

A session is a run of steps over one connector, one context, the handles it keeps
in numbered slots, and the environment of the process, on any network. A slot is
never used twice. At the end all kept handles are dropped in order, and then the
context.
-/
namespace Tether.Session

/-- What a slot holds. -/
inductive Kept where
  | handle (h : Handle)
  | transport (t : Transport)
  | nothing
  deriving DecidableEq, Repr

structure State (σ : Type) where
  connector : NetworkConnector
  /-- For connects that name their environment. -/
  given : Environment
  context : Context Handle
  slots : List Kept := []
  world : World σ

inductive Step where
  | enter (actions : List Action)
  | exit
  | scope (actions : List Action)
  | run (actions : List Action)
  | held
  | call (call : Call)
  | connect (selection : Selection)
  | connectArq
  | connectArqTo (ip : String)
  | connectSim
  | connectSimTo (endpoint : Endpoint)
  | connectDaemon
  | connectDaemonTo (endpoint : Endpoint)
  | connectAll (limit : Option Nat)
  | connectTransport (endpoint : Endpoint)
  | slot (index : Nat) (actions : List Action)
  | convert (index : Nat)
  | drop (index : Nat)
  | setVariable (name value : String)
  | unsetVariable (name : String)
  deriving DecidableEq, Repr

inductive Answer where
  | nothing
  | exited
  | answered (l : List Answered)
  | said (l : List Said)
  | held (view : Option View)
  /-- A handle now kept in a slot. -/
  | kept (slot : Nat) (view : View)
  | keptTransport (slot : Nat)
  /-- An FPGA's handle with its address, or the failure to get one. -/
  | keptArq (ip : Option String) (kept : Outcome (Nat × View))
  | keptAll (l : List (Nat × View))
  | view (v : View)
  | dropped

namespace State

variable {σ : Type}

def contextConnector (net : Fabric σ) (s : State σ) : Connector σ Handle :=
  tracked (s.connector.connector net)

def keep (s : State σ) (k : Kept) : State σ := { s with slots := s.slots ++ [k] }

def inWorld (s : State σ) (world : World σ) : State σ := { s with world }

/-- An outcome on the context, with the answer to its success. -/
def onContext {α : Type} (s : State σ) (f : α → Answer) :
    Outcome α × Context Handle × World σ → Outcome Answer × State σ
  | (result, context, world) => (result.map f, { s with context, world })

/-- An outcome on the world, with what its success leaves behind. -/
def onWorld {α β : Type} (s : State σ) (f : α → State σ → β × State σ) :
    Outcome α × World σ → Outcome β × State σ
  | (.done a, world) =>
    let (answer, s) := f a (s.inWorld world)
    (.done answer, s)
  | (.failed e, world) => (.failed e, s.inWorld world)
  | (.panicked p, world) => (.panicked p, s.inWorld world)
  | (.pending, world) => (.pending, s.inWorld world)

def keepLink (link : Link) (s : State σ) : (Nat × View) × State σ :=
  ((s.slots.length, Handle.view { link }), s.keep (.handle { link }))

/-- Keeps an opened link and answers with its slot. -/
def opened (s : State σ) (r : Outcome Link × World σ) : Outcome Answer × State σ :=
  s.onWorld (fun link s =>
    let (k, s) := s.keepLink link
    (.kept k.1 k.2, s)) r

def keepAll : List Link → State σ → List (Nat × View) × State σ
  | [], s => ([], s)
  | link :: rest, s =>
    let (k, s) := s.keepLink link
    let (ks, s) := keepAll rest s
    (k :: ks, s)

def releaseKept (net : Fabric σ) (w : World σ) : Kept → World σ
  | .handle h => h.link.release net w
  | .transport t => t.release net w
  | .nothing => w

/-- Works on the content of a slot, which panics if there is no such slot. -/
def atSlot (s : State σ) (index : Nat) (f : Kept → Outcome Answer × State σ) :
    Outcome Answer × State σ :=
  match s.slots[index]? with
  | some k => f k
  | none => (.panicked (.noSuchSlot s.slots.length index), s)

def act (net : Fabric σ) (s : State σ) (index : Nat) (actions : List Action) :
    Outcome Answer × State σ :=
  s.atSlot index fun k =>
    match k with
    | .handle h =>
      let (result, h, world) := h.perform net actions s.world
      (result.map .answered, { s with world, slots := s.slots.set index (.handle h) })
    | .transport t =>
      let (result, world) := performOn net t actions s.world
      (result.map .said, s.inWorld world)
    | .nothing => (.panicked .emptySlot, s)

/-- Enters the context and acts on its handle, which stays held. -/
def enter (net : Fabric σ) (s : State σ) (actions : List Action) : Outcome Answer × State σ :=
  match s.context.enter (s.contextConnector net) s.world with
  | (.done _, context, world) =>
    s.onContext .answered
      (context.use (fun h => h.perform net actions) (.panicked .notEntered) world)
  | (.failed e, context, world) => (.failed e, { s with context, world })
  | (.panicked p, context, world) => (.panicked p, { s with context, world })
  | (.pending, context, world) => (.pending, { s with context, world })

/-- Connects to an FPGA; the answer says its address also where nothing is kept. -/
def connectArqTo (net : Fabric σ) (s : State σ) (ip : String) : Outcome Answer × State σ :=
  let (result, s) :=
    s.onWorld keepLink (Link.connectArqTo net s.connector.config ip s.world)
  match result with
  | .done k => (.done (.keptArq (some k.2.peer.host) (.done k)), s)
  | other => (.done (.keptArq none other), s)

def step (net : Fabric σ) (s : State σ) : Step → Outcome Answer × State σ
  | .enter actions => s.enter net actions
  | .exit => s.onContext (fun _ => .exited) (s.context.exit (s.contextConnector net) s.world)
  | .scope actions =>
    s.onContext .answered
      (s.context.bracket (s.contextConnector net) false (fun h => h.perform net actions) s.world)
  | .run actions =>
    s.onContext .answered
      (s.context.run (s.contextConnector net) (fun h => h.perform net actions) s.world)
  | .held => (.done (.held (s.context.held.map Handle.view)), s)
  | .call c => s.opened (s.connector.answer net c s.world)
  | .connect selection => s.opened (s.connector.connectTo net selection s.world)
  | .connectArq => s.opened (Link.connectArq net s.connector.config s.given s.world)
  | .connectArqTo ip => s.connectArqTo net ip
  | .connectSim => s.opened (Link.connectSim net s.connector.config s.given s.world)
  | .connectSimTo endpoint =>
    s.opened (Link.connectSimTo net s.connector.config endpoint s.world)
  | .connectDaemon => s.opened (Link.connectDaemon net s.connector.config s.given s.world)
  | .connectDaemonTo endpoint =>
    s.opened (Link.connectDaemonTo net s.connector.config endpoint s.world)
  | .connectAll limit =>
    s.onWorld (fun links s =>
      let (ks, s) := keepAll links s
      (.keptAll ks, s)) (s.connector.connectAll net limit s.world)
  | .connectTransport endpoint =>
    s.onWorld (fun t s => (.keptTransport s.slots.length, s.keep (.transport t)))
      (Transport.connect net endpoint s.connector.config.connectTimeout s.world)
  | .slot index actions => s.act net index actions
  | .convert index =>
    s.atSlot index fun k =>
      match k with
      | .handle h => (.done (.view h.view), s)
      | _ => (.panicked .emptySlot, s)
  | .drop index =>
    s.atSlot index fun k =>
      (.done .dropped,
        { s with slots := s.slots.set index .nothing, world := releaseKept net s.world k })
  | .setVariable name value =>
    (.done .nothing, s.inWorld { s.world with process := s.world.process.set name value })
  | .unsetVariable name =>
    (.done .nothing, s.inWorld { s.world with process := s.world.process.unset name })

/-- Drops everything that is kept, and then the context. -/
def finish (net : Fabric σ) (s : State σ) : State σ :=
  let world := s.slots.foldl (releaseKept net) s.world
  { s with
    slots := []
    context := { strategy := s.context.strategy }
    world := s.context.release (s.contextConnector net) world }

end State
end Tether.Session
