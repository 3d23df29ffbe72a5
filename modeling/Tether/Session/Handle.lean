import Tether.Connector.Network

/-!
# Acting on kept handles

A session keeps what it opens: links and plain transports. It acts on them by
lists of actions, each of which is answered on its own. A list may end early by a
failure or a panic of its own.
-/
namespace Tether.Session

/-- A link, and whether a commit on it has succeeded: from then on its commit time
includes measured parts. -/
structure Handle where
  link : Link
  measured : Bool := false
  deriving DecidableEq, Repr

/-- A connector that hands out links in this form. -/
def tracked {σ : Type} (c : Connector σ Link) : Connector σ Handle where
  connect call w :=
    let (result, w) := c.connect call w
    (result.map fun link => { link }, w)
  release h w := c.release h.link w

structure View where
  kind : Kind
  peer : Endpoint
  state : Lifecycle
  time : TimeInfo
  measured : Bool
  deriving DecidableEq, Repr

def Handle.view (h : Handle) : View :=
  { kind := h.link.kind, peer := h.link.peer, state := h.link.state
    time := h.link.time, measured := h.measured }

inductive Action where
  | commit (bytes : List UInt8)
  | close
  | record (time : TimeInfo)
  | view
  | write (bytes : List UInt8)
  | flush
  | shutdown
  | fail (error : Error)
  | panic (text : String)
  deriving DecidableEq, Repr

inductive Said where
  | ok
  | failure (error : Error)
  | panic (panic : Panic)
  | view (view : View)
  | peer (endpoint : Endpoint)
  /-- The thing acted on does not know the action. -/
  | unsuited
  deriving DecidableEq, Repr

def Said.ofOutcome : Outcome Unit → Said
  | .done _ => .ok
  | .failed e => .failure e
  | .panicked p => .panic p
  | .pending => .unsuited

def Said.ofExcept : Except Error Unit → Said
  | .ok _ => .ok
  | .error e => .failure e

structure Answered where
  said : Said
  after : View
  deriving DecidableEq, Repr

variable {σ : Type}

/-- One action on a handle; `fail` and `panic` end the list they stand in. -/
def Handle.act (net : Fabric σ) : Action → Handle → World σ → Outcome Said × Handle × World σ
  | .commit bytes, h, w =>
    match h.link.commit net bytes w with
    | (.done _, link, w) => (.done .ok, { link, measured := true }, w)
    | (result, link, w) => (.done (.ofOutcome result), { h with link }, w)
  | .close, h, w =>
    let (result, link, w) := h.link.close net w
    (.done (.ofOutcome result), { h with link }, w)
  | .record time, h, w =>
    let (result, link) := h.link.record time
    (.done (.ofOutcome result), { h with link }, w)
  | .view, h, w => (.done (.view h.view), h, w)
  | .fail e, h, w => (.failed e, h, w)
  | .panic t, h, w => (.panicked (.stated t), h, w)
  | .write _, h, w => (.done .unsuited, h, w)
  | .flush, h, w => (.done .unsuited, h, w)
  | .shutdown, h, w => (.done .unsuited, h, w)

def Handle.perform (net : Fabric σ) : List Action → Handle → World σ →
    Outcome (List Answered) × Handle × World σ
  | [], h, w => (.done [], h, w)
  | a :: rest, h, w =>
    match h.act net a w with
    | (.done said, h, w) =>
      let (result, final, w) := h.perform net rest w
      (result.map (⟨said, h.view⟩ :: ·), final, w)
    | (.failed e, h, w) => (.failed e, h, w)
    | (.panicked p, h, w) => (.panicked p, h, w)
    | (.pending, h, w) => (.pending, h, w)

/-- One action on a plain transport. -/
def actOn (net : Fabric σ) (t : Transport) : Action → World σ → Outcome Said × World σ
  | .write bytes, w =>
    let (result, w) := t.write net bytes w
    (.done (.ofExcept result), w)
  | .flush, w =>
    let (result, w) := t.flush net w
    (.done (.ofExcept result), w)
  | .shutdown, w =>
    let (result, w) := t.shutdown net w
    (.done (.ofExcept result), w)
  | .view, w => (.done (.peer t.peer), w)
  | .fail e, w => (.failed e, w)
  | .panic s, w => (.panicked (.stated s), w)
  | .commit _, w => (.done .unsuited, w)
  | .close, w => (.done .unsuited, w)
  | .record _, w => (.done .unsuited, w)

def performOn (net : Fabric σ) (t : Transport) : List Action → World σ →
    Outcome (List Said) × World σ
  | [], w => (.done [], w)
  | a :: rest, w =>
    match actOn net t a w with
    | (.done said, w) =>
      let (result, w) := performOn net t rest w
      (result.map (said :: ·), w)
    | (.failed e, w) => (.failed e, w)
    | (.panicked p, w) => (.panicked p, w)
    | (.pending, w) => (.pending, w)

end Tether.Session
