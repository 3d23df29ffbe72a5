import Tether.Proofs.Context.Bracket
import Tether.Script

/-!
# What a script answers

The answer to a call depends on how many calls were made before it and on nothing else.
A handle carries the number of its call, so handles that were made by different calls
differ, and those made so far can be read off the script.
-/
namespace Tether.Script

/-- What the connector does at the call with this number, from zero. -/
def cueAt (script : List Cue) (number : Nat) : Cue := script[number]?.getD .handle

/-- The handle that the call with this number makes. -/
def fresh (number : Nat) : Handle := { id := number + 1 }

def Cue.outcome (number : Nat) : Cue → Outcome Handle
  | .handle => .done (fresh number)
  | .failure e => .failed e
  | .panic t => .panicked (.stated t)
  | .silence => .pending

def called (call : Call) (w : World State) : World State :=
  { w with net := { w.net with calls := call :: w.net.calls } }

/-- The world after a context has asked for a handle, whatever the answer. -/
def asked (ctx : Context Handle) (w : World State) : World State :=
  (called ctx.strategy.call (w.emit (.began (.entering ctx.strategy)))).emit .ended

/-- A body that works on its handle and on nothing else in the world. -/
def quiet {α : Type} (f : Handle → Outcome α × Handle) : Context.Body State Handle α :=
  fun h w => ((f h).1, (f h).2, w)

/-- The numbers of the handles that were made in so many calls, the last one first. -/
def produced (script : List Cue) : Nat → List Nat
  | 0 => []
  | n + 1 => if cueAt script n = .handle then (n + 1) :: produced script n else produced script n

/-- What is answered depends on how many calls there were before, not on what was called. -/
theorem answer_eq (script : List Cue) (call : Call) (w : World State) :
    answer script call w =
      ((cueAt script w.net.calls.length).outcome w.net.calls.length, called call w) := by
  cases next : script[w.net.calls.length]? with
  | none => simp [answer, cueAt, next, Cue.outcome, called, fresh]
  | some cue => cases cue <;> simp [answer, cueAt, next, Cue.outcome, called, fresh]

theorem acquire_eq (script : List Cue) (ctx : Context Handle) (w : World State) :
    ctx.acquire (connector script) w =
      ((cueAt script w.net.calls.length).outcome w.net.calls.length, asked ctx w) := by
  have answered := answer_eq script ctx.strategy.call (w.emit (.began (.entering ctx.strategy)))
  rw [Context.acquire, World.within_eq, connector]
  dsimp only
  rw [answered]
  rfl

@[simp] theorem asked_calls (ctx : Context Handle) (w : World State) :
    (asked ctx w).net.calls = ctx.strategy.call :: w.net.calls := rfl

@[simp] theorem asked_dropped (ctx : Context Handle) (w : World State) :
    (asked ctx w).net.dropped = w.net.dropped := rfl

@[simp] theorem asked_total (ctx : Context Handle) (w : World State) (m : Metric) :
    (asked ctx w).journal.total m = w.journal.total m := by
  simp [asked, called]

theorem enter_of_handle (script : List Cue) (ctx : Context Handle) (w : World State)
    (empty : ctx.held = none) (cue : cueAt script w.net.calls.length = .handle) :
    ctx.enter (connector script) w =
      (.done (fresh w.net.calls.length), { ctx with held := some (fresh w.net.calls.length) },
        ctx.accept (asked ctx w)) := by
  rw [Context.enter_of_empty _ ctx w empty, acquire_eq, cue]
  rfl

theorem enter_of_no_handle (script : List Cue) (ctx : Context Handle) (w : World State)
    (empty : ctx.held = none) (cue : cueAt script w.net.calls.length ≠ .handle) :
    (ctx.enter (connector script) w).2 = (ctx, asked ctx w) := by
  rw [Context.enter_of_empty _ ctx w empty, acquire_eq]
  cases next : cueAt script w.net.calls.length with
  | handle => exact absurd next cue
  | _ => rfl

/-- On a handle from the script a bracket runs its body, then drops or leaks what that leaves. -/
theorem bracket_of_handle {α : Type} (script : List Cue) (leak : Bool)
    (body : Context.Body State Handle α) (ctx : Context Handle) (w : World State)
    (empty : ctx.held = none) (cue : cueAt script w.net.calls.length = .handle) :
    ctx.bracket (connector script) leak body w =
      let (result, h, w) := body (fresh w.net.calls.length) (ctx.accept (asked ctx w))
      if leak && !result.isPanicked then (result, { ctx with held := some h }, w)
      else (result, ctx, ctx.part (connector script) h w) := by
  rw [Context.bracket_of_empty _ leak body ctx w empty, acquire_eq, cue]
  rfl

theorem bracket_of_no_handle {α : Type} (script : List Cue) (leak : Bool)
    (body : Context.Body State Handle α) (ctx : Context Handle) (w : World State)
    (empty : ctx.held = none) (cue : cueAt script w.net.calls.length ≠ .handle) :
    (ctx.bracket (connector script) leak body w).2 = (ctx, asked ctx w) := by
  rw [Context.bracket_of_empty _ leak body ctx w empty, acquire_eq]
  cases next : cueAt script w.net.calls.length with
  | handle => exact absurd next cue
  | _ => rfl

/-- A body may change the value of a handle, never its number. -/
theorem perform_id (actions : List Action) (h : Handle) : (perform actions h).2.id = h.id := by
  induction actions generalizing h with
  | nil => rfl
  | cons a rest ih =>
    cases a with
    | add n => exact ih { h with value := h.value + n }
    | fail e => rfl
    | panic t => rfl

/-- However a body of a script ends, it leaves its handle as the actions do. -/
theorem endlessBody_quiet (actions : List Action) :
    ∃ f, endlessBody actions = quiet f ∧ ∀ h, (f h).2 = (perform actions h).2 := by
  refine ⟨fun h => ((endlessBody actions h { net := {} }).1, (perform actions h).2), ?_,
    fun _ => rfl⟩
  funext h w
  simp only [endlessBody, quiet]
  rcases perform actions h with ⟨r | e | p | _, h'⟩ <;> rfl

theorem guardedBody_quiet (actions : List Action) :
    ∃ f, guardedBody actions = quiet f ∧ ∀ h, (f h).2 = (perform actions h).2 := by
  refine ⟨fun h => ((guardedBody actions h { net := {} }).1, (perform actions h).2), ?_,
    fun _ => rfl⟩
  funext h w
  simp only [guardedBody, quiet]
  rcases perform actions h with ⟨r | e | p | _, h'⟩ <;> rfl

theorem mem_produced (script : List Cue) (n id : Nat) :
    id ∈ produced script n ↔ 0 < id ∧ id ≤ n ∧ cueAt script (id - 1) = .handle := by
  induction n with
  | zero =>
    simp only [produced, List.not_mem_nil, false_iff]
    omega
  | succ n ih =>
    have last : id = n + 1 → id - 1 = n := by omega
    unfold produced
    split
    next made =>
      rw [List.mem_cons, ih]
      constructor
      · rintro (rfl | ⟨positive, bound, cue⟩)
        · exact ⟨by omega, by omega, made⟩
        · exact ⟨positive, by omega, cue⟩
      · rintro ⟨positive, bound, cue⟩
        by_cases new : id = n + 1
        · exact .inl new
        · exact .inr ⟨positive, by omega, cue⟩
    next unmade =>
      rw [ih]
      constructor
      · rintro ⟨positive, bound, cue⟩
        exact ⟨positive, by omega, cue⟩
      · rintro ⟨positive, bound, cue⟩
        have old : id ≠ n + 1 := fun new => unmade (last new ▸ cue)
        exact ⟨positive, by omega, cue⟩

/-- Later calls make handles with greater numbers. -/
theorem produced_descending (script : List Cue) (n : Nat) :
    (produced script n).Pairwise (fun later earlier => earlier < later) := by
  induction n with
  | zero => exact .nil
  | succ n ih =>
    unfold produced
    split
    · refine List.pairwise_cons.mpr ⟨fun id made => ?_, ih⟩
      have bound := ((mem_produced script n id).mp made).2.1
      omega
    · exact ih

theorem produced_nodup (script : List Cue) (n : Nat) : (produced script n).Nodup :=
  (produced_descending script n).imp Nat.ne_of_gt

end Tether.Script
