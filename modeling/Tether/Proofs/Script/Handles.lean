import Tether.Proofs.Script.Cues

/-!
# Where handles are

Along every run every handle that the connector made is in one place: dropped, or held
by the context. Handles are numbered, so both places together are compared with the
list of all handles made so far, each once and in the order in which they were made.
This equation is the invariant; that the held handle is the newest, that none is dropped
twice and that no other one is alive are read off it.
-/
namespace Tether.Script

variable {α : Type}

/-- The constructor of a connector that a strategy stands for, with its values. An address
of which only one half is given is passed on as it is. -/
inductive Serves : Strategy → Call → Prop
  | auto : Serves .auto .fromEnvironment
  | arq : Serves (.arq none) .arq
  | arqTo (ip : String) : Serves (.arq (some ip)) (.arqTo ip)
  | sim : Serves (.sim none none) .sim
  | simTo (host : Option String) (port : Option UInt16) (given : host.isSome ∨ port.isSome) :
    Serves (.sim host port) (.simTo host port)

/-- Whether a step needs a handle of its own. -/
def Step.asks : Step → Bool
  | enter | scope _ | scopeLeaked _ | run _ | runEndless _ => true
  | exit | renew => false

/-- One for a step that needs a handle of its own while none is held. -/
def asking (stage : Stage) (st : Step) : Nat :=
  if st.asks && !stage.context.isEntered then 1 else 0

/-- How many steps of a run need a handle of their own while none is held. -/
def askings (script : List Cue) : List Step → Stage → Nat
  | [], _ => 0
  | st :: rest, stage => asking stage st + askings script rest (step script stage st).2

/-- All handles made so far are held or dropped. -/
structure Accounted (script : List Cue) (s : Strategy) (ctx : Context Handle)
    (w : World State) : Prop where
  strategy : ctx.strategy = s
  handles : (ctx.held.toList ++ w.net.dropped).map Handle.id =
    produced script w.net.calls.length

/-- All that a step can do: enter, exit, drop the context for a new one, or bracket some work
on the handle that leaves its number alone. -/
theorem step_cases (script : List Cue) (stage : Stage) (st : Step) :
    (st.asks = true ∧ (step script stage st).2 =
      ⟨(stage.context.enter (connector script) stage.world).2.1,
        (stage.context.enter (connector script) stage.world).2.2⟩) ∨
    (st.asks = false ∧ (step script stage st).2 =
      ⟨(stage.context.exit (connector script) stage.world).2.1,
        (stage.context.exit (connector script) stage.world).2.2⟩) ∨
    (st.asks = false ∧ (step script stage st).2 =
      ⟨{ strategy := stage.context.strategy },
        stage.context.release (connector script) stage.world⟩) ∨
    (st.asks = true ∧ ∃ (α : Type) (leak : Bool) (f : Handle → Outcome α × Handle),
      (∀ h, (f h).2.id = h.id) ∧ (step script stage st).2 =
        ⟨(stage.context.bracket (connector script) leak (quiet f) stage.world).2.1,
          (stage.context.bracket (connector script) leak (quiet f) stage.world).2.2⟩) := by
  cases st with
  | enter => exact .inl ⟨rfl, rfl⟩
  | exit => exact .inr (.inl ⟨rfl, rfl⟩)
  | renew => exact .inr (.inr (.inl ⟨rfl, rfl⟩))
  | scope actions =>
    obtain ⟨f, same, left⟩ := guardedBody_quiet actions
    refine .inr (.inr (.inr ⟨rfl, _, false, f, fun h => left h ▸ perform_id actions h, ?_⟩))
    rw [step, same]
    rfl
  | scopeLeaked actions =>
    exact .inr (.inr (.inr ⟨rfl, _, true, perform actions, perform_id actions, rfl⟩))
  | run actions =>
    exact .inr (.inr (.inr ⟨rfl, _, false, perform actions, perform_id actions, rfl⟩))
  | runEndless actions =>
    obtain ⟨f, same, left⟩ := endlessBody_quiet actions
    refine .inr (.inr (.inr ⟨rfl, _, false, f, fun h => left h ▸ perform_id actions h, ?_⟩))
    rw [step, same]
    rfl

section Accounted

variable {script : List Cue} {s : Strategy} {ctx : Context Handle} {w : World State}

theorem Accounted.of_empty (h : Accounted script s ctx w) (empty : ctx.held = none) :
    w.net.dropped.map Handle.id = produced script w.net.calls.length := by
  have handles := h.handles
  rw [empty] at handles
  exact handles

/-- An answer that is no handle adds a call and nothing else. -/
theorem Accounted.of_no_handle (h : Accounted script s ctx w)
    (empty : ctx.held = none) (cue : cueAt script w.net.calls.length ≠ .handle) :
    Accounted script s ctx (asked ctx w) := by
  refine ⟨h.strategy, ?_⟩
  rw [empty, asked_dropped, asked_calls, List.length_cons, produced, if_neg cue]
  exact h.of_empty empty

/-- A new handle is where the next handle was expected. -/
theorem Accounted.of_handle (h : Accounted script s ctx w)
    (empty : ctx.held = none) (cue : cueAt script w.net.calls.length = .handle)
    (handle : Handle) (same : handle.id = (fresh w.net.calls.length).id) :
    (handle :: w.net.dropped).map Handle.id =
      produced script (ctx.strategy.call :: w.net.calls).length := by
  rw [List.length_cons, produced, if_pos cue, List.map_cons, same, h.of_empty empty]
  rfl

theorem enter_accounted (h : Accounted script s ctx w) :
    Accounted script s (ctx.enter (connector script) w).2.1
      (ctx.enter (connector script) w).2.2 := by
  cases held : ctx.held with
  | some handle =>
    rw [Context.enter_of_held _ ctx w handle held]
    exact h
  | none =>
    by_cases cue : cueAt script w.net.calls.length = .handle
    · rw [enter_of_handle script ctx w held cue]
      exact ⟨h.strategy, h.of_handle held cue _ rfl⟩
    · rw [enter_of_no_handle script ctx w held cue]
      exact h.of_no_handle held cue

/-- An exit moves the held handle to the dropped ones. -/
theorem exit_accounted (h : Accounted script s ctx w) :
    Accounted script s (ctx.exit (connector script) w).2.1
      (ctx.exit (connector script) w).2.2 := by
  cases held : ctx.held with
  | none =>
    rw [Context.exit_of_empty _ ctx w held]
    exact h
  | some handle =>
    have handles := h.handles
    rw [held] at handles
    rw [Context.exit_of_held _ ctx w handle held]
    exact ⟨h.strategy, handles⟩

/-- A bracket adds a handle and drops it again, or leaves it held if its guard was leaked. -/
theorem bracket_accounted (h : Accounted script s ctx w) (leak : Bool)
    (f : Handle → Outcome α × Handle) (keeps : ∀ handle, (f handle).2.id = handle.id) :
    Accounted script s (ctx.bracket (connector script) leak (quiet f) w).2.1
      (ctx.bracket (connector script) leak (quiet f) w).2.2 := by
  cases held : ctx.held with
  | some handle =>
    rw [Context.bracket_of_held _ leak (quiet f) ctx w handle held]
    exact h
  | none =>
    by_cases cue : cueAt script w.net.calls.length = .handle
    · have handles := h.of_handle held cue _ (keeps (fresh w.net.calls.length))
      rw [bracket_of_handle script leak (quiet f) ctx w held cue]
      dsimp only [quiet]
      -- leaked or not, the handle of the bracket is at the head of the list
      split
      · exact ⟨h.strategy, handles⟩
      · refine ⟨h.strategy, ?_⟩
        rw [held]
        exact handles
    · rw [bracket_of_no_handle script leak (quiet f) ctx w held cue]
      exact h.of_no_handle held cue

theorem release_accounted (h : Accounted script s ctx w) :
    Accounted script s { strategy := ctx.strategy } (ctx.release (connector script) w) := by
  refine ⟨h.strategy, ?_⟩
  have handles := h.handles
  unfold Context.release
  split
  next held =>
    rw [held] at handles
    exact handles
  next held =>
    rw [held] at handles
    exact handles

end Accounted

/-- No step loses a handle or drops one twice. -/
theorem step_accounted (script : List Cue) (s : Strategy) (stage : Stage) (st : Step)
    (h : Accounted script s stage.context stage.world) :
    Accounted script s (step script stage st).2.context (step script stage st).2.world := by
  rcases step_cases script stage st with
    ⟨_, entered⟩ | ⟨_, exited⟩ | ⟨_, renewed⟩ | ⟨_, α, leak, f, keeps, bracketed⟩
  · rw [entered]
    exact enter_accounted h
  · rw [exited]
    exact exit_accounted h
  · rw [renewed]
    exact release_accounted h
  · rw [bracketed]
    exact bracket_accounted h leak f keeps

theorem enter_calls (script : List Cue) (ctx : Context Handle) (w : World State) :
    (ctx.enter (connector script) w).2.2.net.calls =
      List.replicate (if ctx.isEntered then 0 else 1) ctx.strategy.call ++ w.net.calls := by
  cases held : ctx.held with
  | some handle =>
    rw [Context.enter_of_held _ ctx w handle held]
    simp [Context.isEntered, held]
  | none =>
    by_cases cue : cueAt script w.net.calls.length = .handle
    · rw [enter_of_handle script ctx w held cue]
      simp [Context.isEntered, held]
    · rw [enter_of_no_handle script ctx w held cue]
      simp [Context.isEntered, held]

theorem bracket_calls (script : List Cue) (leak : Bool) (f : Handle → Outcome α × Handle)
    (ctx : Context Handle) (w : World State) :
    (ctx.bracket (connector script) leak (quiet f) w).2.2.net.calls =
      List.replicate (if ctx.isEntered then 0 else 1) ctx.strategy.call ++ w.net.calls := by
  cases held : ctx.held with
  | some handle =>
    rw [Context.bracket_of_held _ leak (quiet f) ctx w handle held]
    simp [Context.isEntered, held]
  | none =>
    by_cases cue : cueAt script w.net.calls.length = .handle
    · rw [bracket_of_handle script leak (quiet f) ctx w held cue]
      dsimp only [quiet]
      split <;> simp [Context.isEntered, connector, held]
    · rw [bracket_of_no_handle script leak (quiet f) ctx w held cue]
      simp [Context.isEntered, held]

theorem exit_calls (script : List Cue) (ctx : Context Handle) (w : World State) :
    (ctx.exit (connector script) w).2.2.net.calls = w.net.calls := by
  unfold Context.exit
  split <;> rfl

theorem release_calls (script : List Cue) (ctx : Context Handle) (w : World State) :
    (ctx.release (connector script) w).net.calls = w.net.calls := by
  unfold Context.release
  split <;> rfl

/-- A step makes one call if it needs a handle and none is held, and no call otherwise. -/
theorem step_calls (script : List Cue) (stage : Stage) (st : Step) :
    (step script stage st).2.world.net.calls =
      List.replicate (asking stage st) stage.context.strategy.call ++ stage.world.net.calls := by
  have wanted : ∀ entered : Bool,
      (if true && !entered then 1 else 0) = if entered then 0 else 1 := by decide
  rcases step_cases script stage st with
    ⟨asks, entered⟩ | ⟨asks, exited⟩ | ⟨asks, renewed⟩ | ⟨asks, α, leak, f, _, bracketed⟩
  · rw [entered, asking, asks, wanted]
    exact enter_calls script stage.context stage.world
  · rw [exited, asking, asks]
    exact exit_calls script stage.context stage.world
  · rw [renewed, asking, asks]
    exact release_calls script stage.context stage.world
  · rw [bracketed, asking, asks, wanted]
    exact bracket_calls script leak f stage.context stage.world

theorem start_accounted (script : List Cue) (s : Strategy) :
    Accounted script s (start s).context (start s).world := ⟨rfl, rfl⟩

/-- By induction on the steps; a failed or panicked step keeps the account as well. -/
theorem reports_accounted (script : List Cue) (s : Strategy) (steps : List Step) (stage : Stage)
    (h : Accounted script s stage.context stage.world) :
    Accounted script s (reports script steps stage).2.context
      (reports script steps stage).2.world := by
  induction steps generalizing stage with
  | nil => exact h
  | cons st rest ih => exact ih _ (step_accounted script s stage st h)

theorem reports_calls (script : List Cue) (s : Strategy) (steps : List Step) (stage : Stage)
    (h : Accounted script s stage.context stage.world) :
    (reports script steps stage).2.world.net.calls =
      List.replicate (askings script steps stage) s.call ++ stage.world.net.calls := by
  induction steps generalizing stage with
  | nil => rfl
  | cons st rest ih =>
    have others := ih _ (step_accounted script s stage st h)
    rw [step_calls, h.strategy, ← List.append_assoc, List.replicate_append_replicate,
      Nat.add_comm] at others
    exact others

theorem serves_call (s : Strategy) : Serves s s.call := by
  cases s with
  | auto => exact .auto
  | arq ip =>
    cases ip with
    | none => exact .arq
    | some ip => exact .arqTo ip
  | sim host port =>
    cases host with
    | some host => exact .simTo _ _ (.inl rfl)
    | none =>
      cases port with
      | some port => exact .simTo _ _ (.inr rfl)
      | none => exact .sim

/-- Of handles that are distinct, those not dropped are the one held. -/
theorem alive_iff_held (held : Option Handle) (gone : List Handle)
    (distinct : ((held.toList ++ gone).map Handle.id).Nodup) (id : Nat) :
    (id ∈ (held.toList ++ gone).map Handle.id ∧ id ∉ gone.map Handle.id) ↔
      held.map Handle.id = some id := by
  cases held with
  | none =>
    constructor
    · rintro ⟨made, kept⟩
      exact absurd made kept
    · rintro ⟨⟩
  | some h =>
    have kept : h.id ∉ gone.map Handle.id := (List.nodup_cons.mp distinct).1
    constructor
    · rintro ⟨made, alive⟩
      rcases List.mem_cons.mp made with rfl | dropped
      · rfl
      · exact absurd dropped alive
    · intro same
      obtain rfl : h.id = id := Option.some.inj same
      exact ⟨List.mem_cons_self, kept⟩

/-- Where the handles are, and which calls were made, when so many steps of a run have
asked for a handle. -/
structure Conserved (script : List Cue) (s : Strategy) (askings : Nat) (stage : Stage) : Prop where
  /-- The handles made so far are the one held and those dropped. -/
  handles : (stage.context.held.toList ++ stage.world.net.dropped).map Handle.id =
    produced script stage.world.net.calls.length
  dropped_once : (stage.world.net.dropped.map Handle.id).Nodup
  /-- Only the handle that is held is alive. -/
  alive_iff : ∀ id, (id ∈ produced script stage.world.net.calls.length ∧
    id ∉ stage.world.net.dropped.map Handle.id) ↔ stage.context.held.map Handle.id = some id
  held_newest : ∀ h, stage.context.held = some h →
    (produced script stage.world.net.calls.length).head? = some h.id
  entered_iff : stage.context.isEntered = true ↔
    ∃ id ∈ produced script stage.world.net.calls.length,
      id ∉ stage.world.net.dropped.map Handle.id
  calls : stage.world.net.calls = List.replicate askings s.call
  served : ∀ call ∈ stage.world.net.calls, Serves s call
  /-- The next step makes a call exactly if it needs a handle and none is held. -/
  next_calls : ∀ st, (step script stage st).2.world.net.calls =
    List.replicate (asking stage st) s.call ++ stage.world.net.calls
  /-- Without a handle an exit panics and changes nothing. -/
  exit_empty : stage.context.isEntered = false →
    step script stage .exit = (.panicked .notEntered, stage)
  /-- With a handle an exit drops this one. -/
  exit_held : ∀ h, stage.context.held = some h →
    (step script stage .exit).1 = .done .exited ∧
    (step script stage .exit).2.context.held = none ∧
    (step script stage .exit).2.world.net.dropped = h :: stage.world.net.dropped

/-- After every run over every script each handle that was made is dropped once or held;
only the held one is alive, and it is the newest. The calls are those of the steps that
asked for a handle while none was held, each the one the strategy stands for. -/
theorem handles_conserved (script : List Cue) (s : Strategy) (steps : List Step) :
    Conserved script s (askings script steps (start s)) (reports script steps (start s)).2 := by
  have accounted := reports_accounted script s steps _ (start_accounted script s)
  have counted := reports_calls script s steps _ (start_accounted script s)
  generalize (reports script steps (start s)).2 = stage at accounted counted ⊢
  have handles := accounted.handles
  have strategy := accounted.strategy
  have calls : stage.world.net.calls =
      List.replicate (askings script steps (start s)) s.call := by
    rw [counted]
    exact List.append_nil _
  have distinct : ((stage.context.held.toList ++ stage.world.net.dropped).map Handle.id).Nodup := by
    rw [handles]
    exact produced_nodup script _
  have alive := alive_iff_held stage.context.held stage.world.net.dropped distinct
  rw [handles] at alive
  refine
    { handles := handles
      dropped_once := ?_
      alive_iff := alive
      held_newest := fun h held => ?_
      entered_iff := ?_
      calls := calls
      served := fun call made => ?_
      next_calls := fun st => strategy ▸ step_calls script stage st
      exit_empty := fun empty => ?_
      exit_held := fun h held => ?_ }
  · rw [List.map_append] at distinct
    exact (List.nodup_append.mp distinct).2.1
  · rw [← handles, held]
    rfl
  · constructor
    · intro entered
      obtain ⟨h, held⟩ := Option.isSome_iff_exists.mp entered
      exact ⟨h.id, (alive h.id).mpr (by rw [held]; rfl)⟩
    · rintro ⟨id, found⟩
      have held := (alive id).mp found
      cases holding : stage.context.held with
      | none => rw [holding] at held; cases held
      | some h => simp [Context.isEntered, holding]
  · rw [calls] at made
    obtain rfl := (List.mem_replicate.mp made).2
    exact serves_call s
  · have held : stage.context.held = none := by simpa [Context.isEntered] using empty
    rw [step, Context.exit_of_empty _ _ _ held]
    rfl
  · rw [step, Context.exit_of_held _ _ _ h held]
    exact ⟨rfl, rfl, rfl⟩

/-- A call that is given up, a scope, a leaked one, a run that is rejected, a new context. -/
example :
    (reports [.silence, .handle] [.enter, .scope [], .scopeLeaked [.add 2], .run [], .renew]
      (start (.sim none (some 9)))).2.world.net =
        { calls := List.replicate 3 (.simTo none (some 9)), dropped := [⟨3, 2⟩, ⟨2, 0⟩] } := by
  decide

end Tether.Script
