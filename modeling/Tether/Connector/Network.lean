import Tether.Connector
import Tether.Link.Connect

/-!
# Connecting over a network

This connector opens links to endpoints given as arguments or named by the
environment. The environment is either fixed or that of the process, which is
then read anew for each connect. A list of connections is all or nothing: when
one connect does not succeed, the links opened before it are dropped.
-/
namespace Tether

/-- Settings and, if it is fixed, the environment. -/
structure NetworkConnector where
  config : Config := {}
  env : Option Environment := none
  deriving Repr

namespace NetworkConnector

variable {σ : Type}

def environment (c : NetworkConnector) (w : World σ) : Environment :=
  c.env.getD (.ofProcess w.process)

def connectTo (net : Fabric σ) (c : NetworkConnector) : Selection → World σ →
    Outcome Link × World σ
  | .daemon endpoint, w => Link.connectDaemonTo net c.config endpoint w
  | .hardware ip, w => Link.connectArqTo net c.config ip w
  | .simulation endpoint, w => Link.connectSimTo net c.config endpoint w

def connectSelected (net : Fabric σ) (c : NetworkConnector) (w : World σ) :
    Outcome Link × World σ :=
  match (c.environment w).select with
  | .error e => (.failed e, w)
  | .ok s => (w.notify (.selected s)).within .connectingSelected (c.connectTo net s)

/-- Connects to a simulator whose address is given in full. -/
def connectSimulator (net : Fabric σ) (c : NetworkConnector) (host : Option String)
    (port : Option UInt16) (w : World σ) : Outcome Link × World σ :=
  match host, port with
  | some host, some port => Link.connectSimTo net c.config ⟨host, port⟩ w
  | host, port => (.failed (.config (.incompleteSimulator host port)), w)

/-- Connects to backends in order, with the links opened so far. -/
def connectEach (net : Fabric σ) (c : NetworkConnector) : List Selection → List Link → World σ →
    Outcome (List Link) × World σ
  | [], opened, w => (.done opened, w)
  | s :: rest, opened, w =>
    match c.connectTo net s w with
    | (.done l, w) => c.connectEach net rest (opened ++ [l]) w
    | (.failed e, w) => (.failed e, Link.releaseAll net opened w)
    | (.panicked p, w) => (.panicked p, Link.releaseAll net opened w)
    | (.pending, w) => (.pending, Link.releaseAll net opened w)

/-- Connects to every backend that the environment offers, up to a limit. -/
def connectAll (net : Fabric σ) (c : NetworkConnector) (limit : Option Nat) (w : World σ) :
    Outcome (List Link) × World σ :=
  match (c.environment w).selectAll limit with
  | .error e => (.failed e, w)
  | .ok selections => c.connectEach net selections [] w

def answer (net : Fabric σ) (c : NetworkConnector) : Call → World σ → Outcome Link × World σ
  | .fromEnvironment, w => c.connectSelected net w
  | .arq, w => Link.connectArq net c.config (c.environment w) w
  | .arqTo ip, w => Link.connectArqTo net c.config ip w
  | .sim, w => Link.connectSim net c.config (c.environment w) w
  | .simTo host port, w => c.connectSimulator net host port w

/-- The connector as contexts know it. -/
def connector (net : Fabric σ) (c : NetworkConnector) : Connector σ Link where
  connect := c.answer net
  release := Link.release net

def shown (c : NetworkConnector) : String :=
  Text.record "NetworkConnector"
    [("config", c.config.shown), ("env", Text.optional (c.env.map Environment.shown))]

end NetworkConnector
end Tether
