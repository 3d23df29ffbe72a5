import Tether.Context

/-!
# What a bracket does

A bracket asks for a handle, runs its body on it, and drops it. What becomes of the
result is decided by three things only: whether the context already holds a handle, what
the connector answers, and how the body ends. A context that holds a handle rejects the
bracket before anything happens; an answer that is no handle comes out as it is; and
after a handle the body's own result comes out, with the exit in between.
-/
namespace Tether.Context

variable {σ η α : Type}

/-- The answer of the connector when a context asks it for a handle. -/
def acquire (c : Connector σ η) (ctx : Context η) (w : World σ) : Outcome η × World σ :=
  w.within (.entering ctx.strategy) (c.connect ctx.strategy.call)

/-- The world right after a context has taken its handle. -/
def accept (ctx : Context η) (w : World σ) : World σ :=
  (w.count (.entered ctx.strategy.label)).notify (.entered ctx.strategy)

/-- The world right after a context has dropped its handle. -/
def part (c : Connector σ η) (ctx : Context η) (h : η) (w : World σ) : World σ :=
  ((c.release h w).count (.exited ctx.strategy.label)).notify (.exited ctx.strategy)

@[simp] theorem accept_net (ctx : Context η) (w : World σ) : (ctx.accept w).net = w.net := rfl

@[simp] theorem accept_total (ctx : Context η) (w : World σ) (m : Metric) :
    (ctx.accept w).journal.total m =
      w.journal.total m + if .entered ctx.strategy.label = m then 1 else 0 := by
  rw [accept, World.total_notify, World.total_count]

@[simp] theorem part_net (c : Connector σ η) (ctx : Context η) (h : η) (w : World σ) :
    (ctx.part c h w).net = (c.release h w).net := rfl

@[simp] theorem part_total (c : Connector σ η) (ctx : Context η) (h : η) (w : World σ)
    (m : Metric) :
    (ctx.part c h w).journal.total m =
      (c.release h w).journal.total m + if .exited ctx.strategy.label = m then 1 else 0 := by
  rw [part, World.total_notify, World.total_count]

/-- A context takes one handle at a time: the connector is not even asked for a second one. -/
theorem enter_of_held (c : Connector σ η) (ctx : Context η) (w : World σ) (h : η)
    (held : ctx.held = some h) :
    ctx.enter c w = (.failed (.invalidState .alreadyEntered), ctx, w) := by
  simp only [enter, held]

/-- An empty context asks once, and only an answer with a handle is accepted and counted. -/
theorem enter_of_empty (c : Connector σ η) (ctx : Context η) (w : World σ)
    (empty : ctx.held = none) :
    ctx.enter c w =
      match ctx.acquire c w with
      | (.done h, w) => (.done h, { ctx with held := some h }, ctx.accept w)
      | (.failed e, w) => (.failed e, ctx, w)
      | (.panicked p, w) => (.panicked p, ctx, w)
      | (.pending, w) => (.pending, ctx, w) := by
  obtain ⟨s, held⟩ := ctx
  obtain rfl : held = none := empty
  rfl

/-- An exit drops the handle and counts it, and cannot fail. -/
theorem exit_of_held (c : Connector σ η) (ctx : Context η) (w : World σ) (h : η)
    (held : ctx.held = some h) :
    ctx.exit c w = (.done (), { ctx with held := none }, ctx.part c h w) := by
  simp only [exit, held, part]

/-- An exit without an entry is a mistake of the caller; it drops and counts nothing. -/
theorem exit_of_empty (c : Connector σ η) (ctx : Context η) (w : World σ)
    (empty : ctx.held = none) : ctx.exit c w = (.panicked .notEntered, ctx, w) := by
  simp only [exit, empty]

/-- The exit of a bracket finds the handle that the bracket took, so it never panics. -/
theorem leave_of_held (c : Connector σ η) (result : Outcome α) (ctx : Context η) (w : World σ)
    (h : η) (held : ctx.held = some h) :
    ctx.leave c result w = (result, { ctx with held := none }, ctx.part c h w) := by
  simp only [leave, exit_of_held c ctx w h held]

/-- A bracket on an entered context fails before its body runs. -/
theorem bracket_of_held (c : Connector σ η) (leak : Bool) (body : Body σ η α) (ctx : Context η)
    (w : World σ) (h : η) (held : ctx.held = some h) :
    ctx.bracket c leak body w = (.failed (.invalidState .alreadyEntered), ctx, w) := by
  simp only [bracket, enter_of_held c ctx w h held]

/-- A bracket on an empty context, by the connector's answer. -/
theorem bracket_of_empty (c : Connector σ η) (leak : Bool) (body : Body σ η α) (ctx : Context η)
    (w : World σ) (empty : ctx.held = none) :
    ctx.bracket c leak body w =
      match ctx.acquire c w with
      | (.done h, w) =>
        let (result, h, w) := body h (ctx.accept w)
        if leak && !result.isPanicked then (result, { ctx with held := some h }, w)
        else (result, ctx, ctx.part c h w)
      | (.failed e, w) => (.failed e, ctx, w)
      | (.panicked p, w) => (.panicked p, ctx, w)
      | (.pending, w) => (.pending, ctx, w) := by
  obtain ⟨s, held⟩ := ctx
  obtain rfl : held = none := empty
  unfold bracket
  rw [enter_of_empty c _ w rfl]
  rcases acquire c ⟨s, none⟩ w with ⟨h | e | p | _, after⟩
  · dsimp only
    split
    · rfl
    · rw [leave_of_held c _ _ _ _ rfl]
      rfl
  all_goals rfl

/-- What a bracket with a given result did, over any connector and with any body. The
worlds are given exactly, so nothing else was done: no call of the connector and no run
of the body besides those that are shown. -/
structure Transparent (c : Connector σ η) (leak : Bool) (body : Body σ η α) (ctx : Context η)
    (w : World σ) (r : Outcome α × Context η × World σ) : Prop where
  rejected : ∀ h, ctx.held = some h → r = (.failed (.invalidState .alreadyEntered), ctx, w)
  failed : ∀ e after, ctx.held = none → ctx.acquire c w = (.failed e, after) →
    r = (.failed e, ctx, after)
  panicked : ∀ p after, ctx.held = none → ctx.acquire c w = (.panicked p, after) →
    r = (.panicked p, ctx, after)
  cancelled : ∀ after, ctx.held = none → ctx.acquire c w = (.pending, after) →
    r = (.pending, ctx, after)
  /-- The body runs on the new handle, and the handle as the body left it is dropped. -/
  released : ∀ h after result h' after', ctx.held = none → ctx.acquire c w = (.done h, after) →
    body h (ctx.accept after) = (result, h', after') → (leak && !result.isPanicked) = false →
    r = (result, ctx, ctx.part c h' after')
  /-- A leaked guard leaves the handle with the context. -/
  leaked : ∀ h after result h' after', ctx.held = none → ctx.acquire c w = (.done h, after) →
    body h (ctx.accept after) = (result, h', after') → (leak && !result.isPanicked) = true →
    r = (result, { ctx with held := some h' }, after')
  /-- Around the body each of the two context counters moves once. -/
  entered : ∀ (after : World σ) m, (ctx.accept after).journal.total m =
    after.journal.total m + if .entered ctx.strategy.label = m then 1 else 0
  exited : ∀ h (after : World σ) m, (ctx.part c h after).journal.total m =
    (c.release h after).journal.total m + if .exited ctx.strategy.label = m then 1 else 0

/-- No assumption is made on the connector or the body: neither has to behave for the
bracket to do its part. -/
theorem bracket_transparent (c : Connector σ η) (leak : Bool) (body : Body σ η α)
    (ctx : Context η) (w : World σ) :
    Transparent c leak body ctx w (ctx.bracket c leak body w) where
  rejected h held := bracket_of_held c leak body ctx w h held
  failed e after empty answer := by rw [bracket_of_empty c leak body ctx w empty, answer]
  panicked p after empty answer := by rw [bracket_of_empty c leak body ctx w empty, answer]
  cancelled after empty answer := by rw [bracket_of_empty c leak body ctx w empty, answer]
  released h after result h' after' empty answer worked kept := by
    rw [bracket_of_empty c leak body ctx w empty, answer]
    simp only [worked, kept, Bool.false_eq_true, if_false]
  leaked h after result h' after' empty answer worked kept := by
    rw [bracket_of_empty c leak body ctx w empty, answer]
    simp only [worked, kept, if_true]
  entered after m := accept_total ctx after m
  exited h after m := part_total c ctx h after m

end Tether.Context
