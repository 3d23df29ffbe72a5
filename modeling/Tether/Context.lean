import Tether.Connector

/-!
# Contexts

A context holds at most one handle. Entering asks the connector for one in the
way of the context's strategy; exiting drops it. A scope exits whatever its body
does: succeed, fail, panic, or never complete and be given up. Only a guard that
is leaked on purpose by a body that did not panic leaves the context entered.
-/
namespace Tether

/-- How to connect, and the handle if there is one. -/
structure Context (η : Type) where
  strategy : Strategy
  held : Option η := none
  deriving Repr

namespace Context

variable {σ η α : Type}

def isEntered (ctx : Context η) : Bool := ctx.held.isSome

def enter (c : Connector σ η) (ctx : Context η) (w : World σ) :
    Outcome η × Context η × World σ :=
  match ctx.held with
  | some _ => (.failed (.invalidState .alreadyEntered), ctx, w)
  | none =>
    match w.within (.entering ctx.strategy) (c.connect ctx.strategy.call) with
    | (.done h, w) =>
      (.done h, { ctx with held := some h },
        (w.count (.entered ctx.strategy.label)).notify (.entered ctx.strategy))
    | (.failed e, w) => (.failed e, ctx, w)
    | (.panicked p, w) => (.panicked p, ctx, w)
    | (.pending, w) => (.pending, ctx, w)

/-- Drops the handle; panics if there is none. -/
def exit (c : Connector σ η) (ctx : Context η) (w : World σ) :
    Outcome Unit × Context η × World σ :=
  match ctx.held with
  | none => (.panicked .notEntered, ctx, w)
  | some h =>
    (.done (), { ctx with held := none },
      ((c.release h w).count (.exited ctx.strategy.label)).notify (.exited ctx.strategy))

/-- What may be done with a handle: it is changed and given back. -/
abbrev Body (σ η α : Type) := η → World σ → Outcome α × η × World σ

/-- Exits after a body, whose result comes out unless the exit itself panics. -/
def leave (c : Connector σ η) (result : Outcome α) (ctx : Context η) (w : World σ) :
    Outcome α × Context η × World σ :=
  match ctx.exit c w with
  | (.panicked p, ctx, w) => (.panicked p, ctx, w)
  | (_, ctx, w) => (result, ctx, w)

/-- Enters, runs the body on the handle, and exits unless the guard is leaked. -/
def bracket (c : Connector σ η) (leak : Bool) (body : Body σ η α) (ctx : Context η)
    (w : World σ) : Outcome α × Context η × World σ :=
  match ctx.enter c w with
  | (.done h, ctx, w) =>
    let (result, h, w) := body h w
    let ctx := { ctx with held := some h }
    if leak && !result.isPanicked then (result, ctx, w) else ctx.leave c result w
  | (.failed e, ctx, w) => (.failed e, ctx, w)
  | (.panicked p, ctx, w) => (.panicked p, ctx, w)
  | (.pending, ctx, w) => (.pending, ctx, w)

/-- Runs a body in the extent of one handle. -/
def run (c : Connector σ η) (body : Body σ η α) (ctx : Context η) (w : World σ) :
    Outcome α × Context η × World σ :=
  ctx.bracket c false body w

def use (body : Body σ η α) (missing : Outcome α) (ctx : Context η) (w : World σ) :
    Outcome α × Context η × World σ :=
  match ctx.held with
  | none => (missing, ctx, w)
  | some h =>
    let (result, h, w) := body h w
    (result, { ctx with held := some h }, w)

/-- Drops the context, and with it the handle that it may hold. -/
def release (c : Connector σ η) (ctx : Context η) (w : World σ) : World σ :=
  match ctx.held with
  | none => w
  | some h => c.release h w

end Context
end Tether
