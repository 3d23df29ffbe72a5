import Tether.Proofs.Connector.Aim
import Tether.Proofs.Context.Conservation
import Tether.Proofs.Holdings
import Tether.Proofs.Link.Events

/-!
# Acquisitions and releases on the counters

A context counts an acquisition when it takes a handle and a release when an exit drops
it, each under the label of its strategy. Connectors and bodies count neither, so entering,
using, exiting and brackets keep the difference of the two and of what the context holds,
whatever the connector answers and however the body ends. Dropping a context is apart: the
handle goes with it, and nothing is counted.
-/
namespace Tether

variable {σ η α : Type}

/-- The acquisitions that were counted under a label, less the releases. -/
def Journal.gauge (j : Journal) (label : Strategy.Label) : Int :=
  j.total (.entered label) - j.total (.exited label)

/-- A connector that does not count for contexts. -/
structure Connector.Neutral (c : Connector σ η) : Prop where
  connect : ∀ call w label, (c.connect call w).2.journal.gauge label = w.journal.gauge label
  release : ∀ h w label, (c.release h w).journal.gauge label = w.journal.gauge label

namespace Context

/-- A body that does not count for contexts. -/
def Body.Neutral (body : Body σ η α) : Prop :=
  ∀ h w label, (body h w).2.2.journal.gauge label = w.journal.gauge label

/-- Whether a context with this label holds a handle. -/
def holds (label : Strategy.Label) (ctx : Context η) : Bool :=
  ctx.isEntered && ctx.strategy.label == label

/-- What a context contributes to the gauge of a label. -/
def grip (label : Strategy.Label) (ctx : Context η) : Int := if ctx.holds label then 1 else 0

theorem grip_of_empty (label : Strategy.Label) (ctx : Context η) (empty : ctx.held = none) :
    ctx.grip label = 0 := by
  simp [grip, holds, isEntered, empty]

theorem grip_of_held (label : Strategy.Label) (ctx : Context η) (h : η)
    (held : ctx.held = some h) :
    ctx.grip label = if ctx.strategy.label = label then 1 else 0 := by
  simp [grip, holds, isEntered, held]

theorem accept_gauge (label : Strategy.Label) (ctx : Context η) (w : World σ) :
    (ctx.accept w).journal.gauge label =
      w.journal.gauge label + if ctx.strategy.label = label then 1 else 0 := by
  simp only [Journal.gauge, accept_total, Metric.entered.injEq, reduceCtorEq, if_false]
  split <;> omega

theorem acquire_gauge {c : Connector σ η} (neutral : c.Neutral) (label : Strategy.Label)
    (ctx : Context η) (w : World σ) :
    (ctx.acquire c w).2.journal.gauge label = w.journal.gauge label := by
  have answered := neutral.connect ctx.strategy.call (w.emit (.began (.entering ctx.strategy))) label
  simpa [acquire, World.within_eq, Journal.gauge] using answered

theorem part_gauge {c : Connector σ η} (neutral : c.Neutral) (label : Strategy.Label)
    (ctx : Context η) (h : η) (w : World σ) :
    (ctx.part c h w).journal.gauge label =
      w.journal.gauge label - if ctx.strategy.label = label then 1 else 0 := by
  have released := neutral.release h w label
  simp only [Journal.gauge, part_total, Metric.exited.injEq, reduceCtorEq, if_false] at released ⊢
  split <;> omega

/-- The handle goes with the context, and no release is counted. -/
theorem release_gauge {c : Connector σ η} (neutral : c.Neutral) (label : Strategy.Label)
    (ctx : Context η) (w : World σ) :
    (ctx.release c w).journal.gauge label = w.journal.gauge label := by
  unfold release
  split
  · rfl
  next h _ => exact neutral.release h w label

/-- The gauge moves with the grip of a context, whatever the connector answers. -/
theorem neutral_balanced {c : Connector σ η} (neutral : c.Neutral) (label : Strategy.Label) :
    Balanced (fun w => w.journal.gauge label) (grip label) c where
  empty ctx held := grip_of_empty label ctx held
  taken ctx w h after answer := by
    have acquired := acquire_gauge neutral label ctx w
    rw [answer] at acquired
    rw [accept_gauge, acquired, grip_of_held label { ctx with held := some h } h rfl]
  missed ctx w _ := acquire_gauge neutral label ctx w
  parted ctx h w := by
    rw [part_gauge neutral, grip_of_held label { ctx with held := some h } h rfl]

/-- A body leaves the grip of its context as it is, whatever it does with the handle. -/
theorem neutral_steady {body : Body σ η α} (neutral : body.Neutral) (label : Strategy.Label) :
    body.Steady (fun w => w.journal.gauge label) (grip label) :=
  fun _ h w => congrArg (· - _) (neutral h w label)

end Context

namespace Link

theorem trace_gauge (kind : Kind) (endpoint : Endpoint) (r : Outcome Link) (j : Journal)
    (label : Strategy.Label) :
    Journal.gauge (trace kind endpoint r ++ j) label = j.gauge label := by
  cases r <;> simp [trace, Journal.gauge]

/-- Connects count attempts, links and errors, but nothing for contexts. -/
theorem connect_gauge (net : Fabric σ) (kind : Kind) (endpoint : Endpoint) (config : Config)
    (w : World σ) (label : Strategy.Label) :
    (connect net kind endpoint config w).2.journal.gauge label = w.journal.gauge label := by
  rw [connect_eq_of_reply]
  exact trace_gauge kind endpoint _ w.journal label

/-- All attempts on the daemon, and the waits in between, are as neutral as a single
connect. -/
theorem attempt_gauge (net : Fabric σ) (config : Config) (endpoint : Endpoint) (number : UInt64)
    (w : World σ) (label : Strategy.Label) :
    (attempt net config endpoint number w).2.journal.gauge label = w.journal.gauge label := by
  have made := fun w => connect_gauge net .quiggeldy endpoint config w label
  fun_induction attempt net config endpoint number w with
  | case1 number w e after answer transient more ih =>
    have first := answer ▸ made w
    rw [ih, ← first]
    simp [prepareRetry, Journal.gauge]
  | case2 number w e after answer transient last =>
    have first := made w
    rwa [answer] at first
  | case3 number w e after answer lasting => exact answer ▸ made w
  | case4 number w other => exact made w

theorem release_gauge (net : Fabric σ) (l : Link) (w : World σ) (label : Strategy.Label) :
    (l.release net w).journal.gauge label = w.journal.gauge label := by
  rw [release_journal]
  split <;> simp [Journal.gauge]

/-- Deeds on a link count for the link. -/
theorem perform_gauge (net : Fabric σ) (d : Deed) (l : Link) (w : World σ)
    (label : Strategy.Label) :
    (l.perform net d w).2.2.journal.gauge label = w.journal.gauge label := by
  cases d with
  | commit bytes =>
    rw [perform, commit_journal]
    cases l.commitError? net bytes w <;> simp [breakdown, Journal.gauge]
  | close =>
    rw [perform, close_journal]
    split <;> simp [Journal.gauge]
  | record time => rfl

/-- Whatever deeds a body does and however it ends, it counts for no context. -/
theorem body_neutral (net : Fabric σ) (deeds : List Deed) (ending : Outcome α) :
    (Link.body net deeds ending).Neutral := by
  intro l w label
  induction deeds generalizing l w with
  | nil => rfl
  | cons d rest ih => exact (ih _ _).trans (perform_gauge net d l w label)

end Link

namespace NetworkConnector

open Link

theorem connectTo_gauge (net : Fabric σ) (c : NetworkConnector) (s : Selection) (w : World σ)
    (label : Strategy.Label) :
    (c.connectTo net s w).2.journal.gauge label = w.journal.gauge label := by
  cases s with
  | daemon endpoint => exact attempt_gauge net c.config endpoint 1 w label
  | hardware ip => exact connect_gauge net .arq _ c.config w label
  | simulation endpoint => exact connect_gauge net .sim endpoint c.config w label

/-- The connectors of this library never count for contexts, so what is proved for neutral
ones holds for them. -/
theorem connector_neutral (net : Fabric σ) (c : NetworkConnector) :
    (c.connector net).Neutral where
  connect call w label := by
    change (c.answer net call w).2.journal.gauge label = w.journal.gauge label
    rw [answer_eq_approach]
    cases call.aim (c.environment w) with
    | error e => rfl
    | ok s =>
      have connected := fun w => connectTo_gauge net { config := c.config } s w label
      cases call with
      | fromEnvironment =>
        have inside := connected ((w.notify (.selected s)).emit (.began .connectingSelected))
        simpa [approach, World.within_eq, Journal.gauge] using inside
      | _ => exact connected w
  release l w label := Link.release_gauge net l w label

end NetworkConnector

end Tether
