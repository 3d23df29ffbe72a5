import Tether.Config
import Tether.TimeInfo
import Tether.Transport

/-!
# Links

A link is the one handle on a connection to a backend: its transport while it is
open, its state, and the time spent on its behalf. Opening counts an attempt, and
then either an error or an opened connection. A link that was opened is counted
closed once: when a commit fails in the transport, when it is closed, or when it
is dropped before either.
-/
namespace Tether

/-- A handle on a connection. -/
structure Link where
  kind : Kind
  peer : Endpoint
  state : Lifecycle
  transport : Option Transport
  time : TimeInfo := {}
  deriving DecidableEq, Repr

namespace Link

variable {σ : Type}

/-- The connect itself did not succeed. -/
def refuse (kind : Kind) (endpoint : Endpoint) (e : Error) (w : World σ) : World σ :=
  (w.count (.errors kind e.category)).notify (.connectFailed kind endpoint e)

/-- The transport is open. -/
def establish (kind : Kind) (state : Lifecycle) (t : Transport) (w : World σ) :
    Outcome Link × World σ :=
  let w := w.count (.connectDuration kind)
  match state.transition .opened with
  | .error e => (.failed e, w)
  | .ok state =>
    (.done { kind, peer := t.peer, state, transport := some t },
      (w.count (.opened kind)).notify (.established kind t.peer))

/-- Opens a transport to the endpoint, and a link over it. -/
def connect (net : Fabric σ) (kind : Kind) (endpoint : Endpoint) (config : Config) (w : World σ) :
    Outcome Link × World σ :=
  match Lifecycle.initial.transition .connecting with
  | .error e => (.failed e, w)
  | .ok state =>
    match (w.count (.attempts kind)).within (.connecting kind endpoint)
      (Transport.connect net endpoint config.connectTimeout) with
    | (.done t, w) => establish kind state t w
    | (.failed e, w) => (.failed e, refuse kind endpoint e w)
    | (.panicked p, w) => (.panicked p, w)
    | (.pending, w) => (.pending, w)

/-- Gives up a transport that failed; the link is closed from then on. -/
def abort (net : Fabric σ) (t : Transport) (e : Error) (l : Link) (w : World σ) :
    Link × World σ :=
  let w := t.release net w
  let w := (w.count (.errors l.kind e.category)).count (.closed l.kind)
  ({ l with transport := none, state := .closed }, w.notify (.transportFailed l.kind l.peer e))

/-- Sends bytes and accounts the time that took. -/
def commit (net : Fabric σ) (bytes : List UInt8) (l : Link) (w : World σ) :
    Outcome Unit × Link × World σ :=
  if l.state.isOpen then
    match l.transport with
    | none => (.failed .connectionClosed, l, w)
    | some t =>
      match t.send net bytes w with
      | (.error e, after) =>
        let (l, after) := l.abort net t e after
        (.failed e, l, after)
      | (.ok (), after) =>
        match l.time.commit.add? ((net.now after.net).sub (net.now w.net)) with
        | none => (.panicked .durationOverflow, l, after)
        | some d => (.done (), { l with time := { l.time with commit := d } }, after)
  else (.failed (.invalidState (.notOpen l.state)), l, w)

/-- Shuts the transport down, if there is one, and gives it back. -/
def hangUp (net : Fabric σ) (l : Link) (w : World σ) : Except Error Unit × World σ :=
  match l.transport with
  | none => (.ok (), w)
  | some t =>
    let (result, w) := t.shutdown net w
    (result, t.release net w)

/-- Closes the link in order. It is closed even if the shutdown fails. -/
def close (net : Fabric σ) (l : Link) (w : World σ) : Outcome Unit × Link × World σ :=
  match l.state.transition .closing with
  | .error e => (.failed e, l, w)
  | .ok state =>
    let (result, w) := l.hangUp net w
    let l := { l with state, transport := none }
    match l.state.transition .closed with
    | .error e => (.failed e, l, w)
    | .ok state =>
      (.ofExcept result, { l with state },
        (w.count (.closed l.kind)).notify (.closed l.kind l.peer))

/-- Adds times measured elsewhere. On overflow the sums made so far stay. -/
def record (d : TimeInfo) (l : Link) : Outcome Unit × Link :=
  match l.time.accumulate d with
  | .complete t => (.done (), { l with time := t })
  | .overflow t => (.panicked .durationOverflow, { l with time := t })

def release (net : Fabric σ) (l : Link) (w : World σ) : World σ :=
  let w := if l.state = .closed then w
    else (w.count (.closed l.kind)).notify (.released l.kind l.peer)
  match l.transport with
  | none => w
  | some t => t.release net w

def releaseAll (net : Fabric σ) (ls : List Link) (w : World σ) : World σ :=
  ls.foldl (fun w l => l.release net w) w

end Link
end Tether
