import Tether.Transport

/-!
# A host with peers of its own

The network of a single host: listeners at endpoints, and the streams that were
opened to them. A listener is there from the start, or starts right before a given
connect, or never answers. A peer may leave its streams by a reset, which the next
bytes find out, or in order, which is found out one write later. Bytes sent while
the peer is there arrive in order. A host without a route reaches none of this:
each of its connects fails at once.
-/
namespace Tether

inductive Listener.Mode where
  | immediate
  /-- It starts to listen right before the connect after this many others. -/
  | late (after : Nat)
  | silent
  deriving DecidableEq, Repr

structure Listener where
  endpoint : Endpoint
  mode : Listener.Mode := .immediate
  listening : Bool := true
  deriving DecidableEq, Repr

/-- What became of the peer of a stream. -/
inductive Presence where
  | present
  /-- It has reset the stream, and this side has not noticed. -/
  | reset
  /-- It has closed the stream in order, and nothing was sent since. -/
  | closed
  | gone
  deriving DecidableEq, Repr

/-- A stream to a listener, given by its place in the list of listeners. -/
structure Stream where
  listener : Nat
  received : List UInt8 := []
  peer : Presence := .present
  /-- This side sends no more. -/
  finished : Bool := false
  deriving DecidableEq, Repr

namespace Stream

/-- Takes bytes. Nothing is asked of a stream that gets none. -/
def write (bytes : List UInt8) (s : Stream) : Except Fault Unit × Stream :=
  if bytes.isEmpty then (.ok (), s)
  else if s.finished then (.error .broken, s)
  else
    match s.peer with
    | .present => (.ok (), { s with received := s.received ++ bytes })
    | .reset => (.error .reset, { s with peer := .gone })
    | .closed => (.ok (), { s with peer := .gone })
    | .gone => (.error .broken, s)

/-- Whether its peer still holds the stream that led to a listener. -/
def heldBy (listener : Nat) (s : Stream) : Bool := s.listener == listener && s.peer == .present

end Stream

structure Loopback where
  /-- Whether the host can reach its own addresses. -/
  routed : Bool := true
  listeners : List Listener := []
  streams : List Stream := []
  connects : Nat := 0
  deriving DecidableEq, Repr

namespace Loopback

/-- Counts a connect, before which a late listener may start. -/
def nextConnect (n : Loopback) : Loopback :=
  { n with
    connects := n.connects + 1
    listeners := n.listeners.map fun l =>
      if l.mode = .late n.connects then { l with listening := true } else l }

def connect (endpoint : Endpoint) (n : Loopback) : Reply × Loopback :=
  let n := n.nextConnect
  if n.routed then
    match n.listeners.findIdx? (fun l => l.listening && l.endpoint == endpoint) with
    | none => (.failed .refused, n)
    | some i =>
      if n.listeners[i]?.any (·.mode == .silent) then (.silent, n)
      else
        (.connected n.streams.length, { n with streams := n.streams ++ [{ listener := i }] })
  else (.failed .unreachable, n)

/-- Hands bytes to a stream. -/
def write (socket : Nat) (bytes : List UInt8) (n : Loopback) : Except Fault Unit × Loopback :=
  match n.streams[socket]? with
  | none => (.error .broken, n)
  | some s =>
    let (result, s) := s.write bytes
    (result, { n with streams := n.streams.set socket s })

/-- Nothing more is sent on a stream. -/
def finish (socket : Nat) (n : Loopback) : Loopback :=
  { n with streams := n.streams.modify socket fun s => { s with finished := true } }

/-- The host as a network. Its operations take no time, and neither a flush nor a
shutdown ever fails. -/
def fabric : Fabric Loopback where
  connect endpoint _ n := n.connect endpoint
  write socket bytes n := n.write socket bytes
  flush _ n := (.ok (), n)
  shutdown socket n := (.ok (), n.finish socket)
  release := finish
  now _ := .zero

/-- A host whose listeners are about to work. A listener that never answers has to
be kept busy by connects, so it needs a route. -/
def start (routed : Bool) (listeners : List Listener) : Except Fault Loopback :=
  if !routed && listeners.any (·.mode == .silent) then .error .unreachable
  else
    .ok { routed
          listeners := listeners.map fun l =>
            match l.mode with
            | .late _ => { l with listening := false }
            | _ => l }

/-- Starts or stops a listener. Streams that were opened to it live on. -/
def setListening (listener : Nat) (listening : Bool) (n : Loopback) : Loopback :=
  { n with listeners := n.listeners.modify listener fun l => { l with listening } }

/-- The streams that a listener's peers still hold, in the order of their arrival:
the bytes received, and whether this side has finished. -/
def arrived (listener : Nat) (n : Loopback) : List (List UInt8 × Bool) :=
  (n.streams.filter (·.heldBy listener)).map fun s => (s.received, s.finished)

def leave (listener : Nat) (how : Presence) (n : Loopback) : Loopback :=
  { n with streams := n.streams.map fun s =>
      if s.heldBy listener then { s with peer := how } else s }

def isFree (port : UInt16) (n : Loopback) : Bool :=
  port != 0 && n.listeners.all fun l => !(l.listening && l.endpoint.port == port)

def unusedPort (n : Loopback) : Option UInt16 :=
  ((List.range 16384).map fun i => UInt16.ofNat (49152 + i)).find? n.isFree

end Loopback
end Tether
