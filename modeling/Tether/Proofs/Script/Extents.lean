import Tether.Proofs.Script.Cues

/-!
# The extent of a handle

A bracket over a scripted connector in what can be counted: the calls made, the handles
dropped, and the totals of all metrics. The body is any work on the handle that ends in
any way. A bracket that is rejected, or whose connector hands out no handle, drops
nothing and counts nothing; one that runs its body drops this one handle, with the
contents that the body gave it, and counts one entered and one exited context.
-/
namespace Tether.Script

variable {α : Type}

/-- What can be counted in a world. -/
structure Counted (w : World State) (calls : List Call) (dropped : List Handle)
    (totals : Metric → Nat) : Prop where
  calls : w.net.calls = calls
  dropped : w.net.dropped = dropped
  totals : ∀ m, w.journal.total m = totals m

/-- What a bracket with a given result did, by the context it began with and the next cue
of the script. -/
structure AllOrNothing (script : List Cue) (leak : Bool) (f : Handle → Outcome α × Handle)
    (ctx : Context Handle) (w : World State) (r : Outcome α × Context Handle × World State) :
    Prop where
  /-- The handle that is held stays as it is, and so does everything else. -/
  rejected : ∀ h, ctx.held = some h → r = (.failed (.invalidState .alreadyEntered), ctx, w)
  failed : ∀ e, ctx.held = none → cueAt script w.net.calls.length = .failure e →
    r.1 = .failed e ∧ r.2.1 = ctx ∧
      Counted r.2.2 (ctx.strategy.call :: w.net.calls) w.net.dropped w.journal.total
  panicked : ∀ t, ctx.held = none → cueAt script w.net.calls.length = .panic t →
    r.1 = .panicked (.stated t) ∧ r.2.1 = ctx ∧
      Counted r.2.2 (ctx.strategy.call :: w.net.calls) w.net.dropped w.journal.total
  cancelled : ctx.held = none → cueAt script w.net.calls.length = .silence →
    r.1 = .pending ∧ r.2.1 = ctx ∧
      Counted r.2.2 (ctx.strategy.call :: w.net.calls) w.net.dropped w.journal.total
  released : ∀ h, h = fresh w.net.calls.length →
    ctx.held = none → cueAt script w.net.calls.length = .handle →
    leak = false ∨ (f h).1.isPanicked = true →
    r.1 = (f h).1 ∧ r.2.1 = ctx ∧
      Counted r.2.2 (ctx.strategy.call :: w.net.calls) ((f h).2 :: w.net.dropped) fun m =>
        w.journal.total m + (if .entered ctx.strategy.label = m then 1 else 0) +
          if .exited ctx.strategy.label = m then 1 else 0
  leaked : ∀ h, h = fresh w.net.calls.length →
    ctx.held = none → cueAt script w.net.calls.length = .handle →
    leak = true → (f h).1.isPanicked = false →
    r.1 = (f h).1 ∧ r.2.1 = { ctx with held := some (f h).2 } ∧
      Counted r.2.2 (ctx.strategy.call :: w.net.calls) w.net.dropped fun m =>
        w.journal.total m + if .entered ctx.strategy.label = m then 1 else 0

theorem asked_counted (ctx : Context Handle) (w : World State) :
    Counted (asked ctx w) (ctx.strategy.call :: w.net.calls) w.net.dropped w.journal.total :=
  ⟨rfl, rfl, asked_total ctx w⟩

theorem accepted_counted (ctx : Context Handle) (w : World State) :
    Counted (ctx.accept (asked ctx w)) (ctx.strategy.call :: w.net.calls) w.net.dropped fun m =>
      w.journal.total m + if .entered ctx.strategy.label = m then 1 else 0 :=
  ⟨rfl, rfl, fun m => by rw [Context.accept_total, asked_total]⟩

theorem parted_counted (script : List Cue) (ctx : Context Handle) (h : Handle) (w : World State) :
    Counted (ctx.part (connector script) h (ctx.accept (asked ctx w)))
      (ctx.strategy.call :: w.net.calls) (h :: w.net.dropped) fun m =>
        w.journal.total m + (if .entered ctx.strategy.label = m then 1 else 0) +
          if .exited ctx.strategy.label = m then 1 else 0 := by
  refine ⟨rfl, rfl, fun m => ?_⟩
  have accepted := (accepted_counted ctx w).totals m
  rw [Context.part_total, ← accepted]
  rfl

/-- The calls, the drops and both counters after a bracket, for every cue and every end of
its body. -/
theorem bracket_counted (script : List Cue) (leak : Bool) (f : Handle → Outcome α × Handle)
    (ctx : Context Handle) (w : World State) :
    AllOrNothing script leak f ctx w (ctx.bracket (connector script) leak (quiet f) w) := by
  have transparent := Context.bracket_transparent (connector script) leak (quiet f) ctx w
  have answer := acquire_eq script ctx w
  have asking := asked_counted ctx w
  refine
    { rejected := transparent.rejected
      failed := fun e empty cue => ?_
      panicked := fun t empty cue => ?_
      cancelled := fun empty cue => ?_
      released := ?_
      leaked := ?_ }
  · rw [cue] at answer
    rw [transparent.failed e _ empty answer]
    exact ⟨rfl, rfl, asking⟩
  · rw [cue] at answer
    rw [transparent.panicked _ _ empty answer]
    exact ⟨rfl, rfl, asking⟩
  · rw [cue] at answer
    rw [transparent.cancelled _ empty answer]
    exact ⟨rfl, rfl, asking⟩
  · rintro h rfl empty cue exits
    have kept : (leak && !(f (fresh w.net.calls.length)).1.isPanicked) = false := by
      rcases exits with rfl | panicked
      · rfl
      · simp [panicked]
    rw [cue] at answer
    rw [transparent.released _ _ _ _ _ empty answer rfl kept]
    exact ⟨rfl, rfl, parted_counted script ctx _ w⟩
  · rintro h rfl empty cue leaks unharmed
    have kept : (leak && !(f (fresh w.net.calls.length)).1.isPanicked) = true := by
      simp [leaks, unharmed]
    rw [cue] at answer
    rw [transparent.leaked _ _ _ _ _ empty answer rfl kept]
    exact ⟨rfl, rfl, accepted_counted ctx w⟩

/-- Brackets are transparent and all or nothing, over every connector and for every body:
what is held already is left alone, an answer that is no handle comes out as it is, and
after a handle the result is the body's, with the handle dropped unless its guard was leaked
by a body that did not panic. Over a script all of this is seen in the calls, the drops and
the totals. A run is a bracket that never leaks. -/
theorem bracket_all_or_nothing :
    (∀ {σ η α : Type} (c : Connector σ η) (leak : Bool) (body : Context.Body σ η α)
      (ctx : Context η) (w : World σ),
      Context.Transparent c leak body ctx w (ctx.bracket c leak body w) ∧
      Context.Transparent c false body ctx w (ctx.run c body w)) ∧
    ∀ {α : Type} (script : List Cue) (leak : Bool) (f : Handle → Outcome α × Handle)
      (ctx : Context Handle) (w : World State),
      AllOrNothing script leak f ctx w (ctx.bracket (connector script) leak (quiet f) w) ∧
      AllOrNothing script false f ctx w (ctx.run (connector script) (quiet f) w) :=
  ⟨fun c leak body ctx w => ⟨Context.bracket_transparent c leak body ctx w,
      Context.bracket_transparent c false body ctx w⟩,
    fun script leak f ctx w => ⟨bracket_counted script leak f ctx w,
      bracket_counted script false f ctx w⟩⟩

end Tether.Script
