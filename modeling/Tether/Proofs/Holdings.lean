import Tether.Connector.Network
import Tether.Context
import Tether.Proofs.Link.Lifecycle

/-!
# What a program has in hand

A program that uses this library has links of its own, contexts over connectors, and the
world that it shares with everyone else. It may have any number of each, and may turn to
them in any order. A move is one operation on one of them; between two moves the world
outside may change in any way. What a program can do with a link while another operation
is under way is covered as well: entering, using the held handle, and exiting are moves
of their own, so whatever happens inside a scope may be interleaved with other moves.
-/
namespace Tether

variable {σ α : Type}

/-- Every way to a link. -/
inductive Way where
  | opening (kind : Kind) (endpoint : Endpoint)
  | arqTo (ip : String)
  | arq (env : Environment)
  | simTo (endpoint : Endpoint)
  | sim (env : Environment)
  | daemonTo (endpoint : Endpoint)
  | daemon (env : Environment)
  | selection (s : Selection)
  | call (asked : Call)
  deriving Repr

/-- Goes a way to a link, with the settings of a connector. -/
def Way.go (net : Fabric σ) (c : NetworkConnector) : Way → World σ → Outcome Link × World σ
  | opening kind endpoint, w => Link.connect net kind endpoint c.config w
  | arqTo ip, w => Link.connectArqTo net c.config ip w
  | arq env, w => Link.connectArq net c.config env w
  | simTo endpoint, w => Link.connectSimTo net c.config endpoint w
  | sim env, w => Link.connectSim net c.config env w
  | daemonTo endpoint, w => Link.connectDaemonTo net c.config endpoint w
  | daemon env, w => Link.connectDaemon net c.config env w
  | selection s, w => c.connectTo net s w
  | .call asked, w => c.answer net asked w

/-- Deeds in order, each in the world that the one before left. Their failures and panics
are noticed by whoever wrote the body, who decides how it ends. -/
def Link.performAll (net : Fabric σ) : List Link.Deed → Link → World σ → Link × World σ
  | [], l, w => (l, w)
  | d :: rest, l, w => performAll net rest (l.perform net d w).2.1 (l.perform net d w).2.2

/-- A body of deeds that ends in a given way: with a value, an error, a panic, or never. -/
def Link.body (net : Fabric σ) (deeds : List Link.Deed) (ending : Outcome α) :
    Context.Body σ Link α :=
  fun l w => (ending, l.performAll net deeds w)

structure Holder where
  connector : NetworkConnector
  context : Context Link
  deriving Repr

structure Holdings (σ : Type) where
  links : List Link := []
  holders : List Holder := []
  world : World σ

/-- One operation of a program. Links and contexts are named by their places. -/
inductive Move (σ : Type) where
  | connect (c : NetworkConnector) (way : Way)
  | connectAll (c : NetworkConnector) (limit : Option Nat)
  | deed (index : Nat) (deed : Link.Deed)
  | drop (index : Nat)
  | newContext (c : NetworkConnector) (s : Strategy)
  | enter (index : Nat)
  | deedHeld (index : Nat) (deed : Link.Deed)
  | exit (index : Nat)
  | scope (index : Nat) (leak : Bool) (deeds : List Link.Deed) (ending : Outcome Unit)
  | run (index : Nat) (deeds : List Link.Deed) (ending : Outcome Unit)
  | dropContext (index : Nat)
  /-- The network and the environment of the process change. -/
  | outside (net : σ) (process : ProcessEnvironment)

namespace Holdings

def start (net : σ) (process : ProcessEnvironment) : Holdings σ := { world := { net, process } }

def obtain (s : Holdings σ) (links : α → List Link) (r : Outcome α × World σ) : Holdings σ :=
  match r with
  | (.done a, world) => { s with links := s.links ++ links a, world }
  | (_, world) => { s with world }

def atLink (s : Holdings σ) (index : Nat) (work : Link → World σ → Link × World σ) :
    Holdings σ :=
  match s.links[index]? with
  | none => s
  | some l =>
    { s with links := s.links.set index (work l s.world).1, world := (work l s.world).2 }

def atHolder (s : Holdings σ) (index : Nat)
    (work : Holder → World σ → Context Link × World σ) : Holdings σ :=
  match s.holders[index]? with
  | none => s
  | some h =>
    { s with
      holders := s.holders.set index { h with context := (work h s.world).1 }
      world := (work h s.world).2 }

def drop (net : Fabric σ) (s : Holdings σ) (index : Nat) : Holdings σ :=
  match s.links[index]? with
  | none => s
  | some l => { s with links := s.links.eraseIdx index, world := l.release net s.world }

/-- Drops a context with the handle that it may hold. -/
def dropContext (net : Fabric σ) (s : Holdings σ) (index : Nat) : Holdings σ :=
  match s.holders[index]? with
  | none => s
  | some h =>
    { s with
      holders := s.holders.eraseIdx index
      world := h.context.release (h.connector.connector net) s.world }

/-- Makes a move. Its answer is left out: what it leaves behind is what counts here. -/
def step (net : Fabric σ) (s : Holdings σ) : Move σ → Holdings σ
  | .connect c way => s.obtain (fun l => [l]) (way.go net c s.world)
  | .connectAll c limit => s.obtain id (c.connectAll net limit s.world)
  | .deed index d => s.atLink index fun l w => (l.perform net d w).2
  | .drop index => s.drop net index
  | .newContext c strategy =>
    { s with holders := s.holders ++ [{ connector := c, context := { strategy } }] }
  | .enter index => s.atHolder index fun h w =>
      (h.context.enter (h.connector.connector net) w).2
  | .deedHeld index d => s.atHolder index fun h w =>
      (h.context.use (fun l => l.perform net d) (.done ()) w).2
  | .exit index => s.atHolder index fun h w =>
      (h.context.exit (h.connector.connector net) w).2
  | .scope index leak deeds ending => s.atHolder index fun h w =>
      (h.context.bracket (h.connector.connector net) leak (Link.body net deeds ending) w).2
  | .run index deeds ending => s.atHolder index fun h w =>
      (h.context.run (h.connector.connector net) (Link.body net deeds ending) w).2
  | .dropContext index => s.dropContext net index
  | .outside state process => { s with world := { s.world with net := state, process } }

def run (net : Fabric σ) (s : Holdings σ) (moves : List (Move σ)) : Holdings σ :=
  moves.foldl (step net) s

end Holdings
end Tether
