import Tether.Connector.Network
import Tether.Proofs.Link.Retry

/-!
# What a connect hears

A connect to an endpoint hears the network and nothing else. From one state of the network
it comes to one outcome, one state afterwards and the same new events, whatever the
environment of the process is and whatever the journal already holds; it leaves the former
alone and only adds to the latter. So two programs that make the same connect can differ in
nothing but what they do around it.
-/
namespace Tether

variable {σ α β : Type}

namespace World

/-- Work that hears the network alone. -/
def Detached (work : World σ → α × World σ) : Prop :=
  ∀ s, ∃ (result : α) (after : σ) (events : Journal), ∀ process journal,
    work ⟨s, process, journal⟩ = (result, ⟨after, process, events ++ journal⟩)

/-- An event before the work is one more event of the whole. -/
theorem Detached.emit {work : World σ → α × World σ} (h : Detached work) (e : Event) :
    Detached fun w => work (w.emit e) := by
  intro s
  obtain ⟨result, after, events, same⟩ := h s
  refine ⟨result, after, events ++ [e], fun process journal => ?_⟩
  rw [List.append_assoc]
  exact same process (e :: journal)

/-- Work on the result of other work hears what that left, and nothing else. -/
theorem Detached.bind {work : World σ → α × World σ} {next : α → World σ → β × World σ}
    (h : Detached work) (h' : ∀ a, Detached (next a)) :
    Detached fun w => next (work w).1 (work w).2 := by
  intro s
  obtain ⟨a, between, events, first⟩ := h s
  obtain ⟨b, after, later, second⟩ := h' a between
  refine ⟨b, after, later ++ events, fun process journal => ?_⟩
  dsimp only
  rw [first, List.append_assoc]
  exact second process (events ++ journal)

/-- Work that does nothing hears nothing. -/
theorem detached_pure (a : α) : Detached fun w : World σ => (a, w) :=
  fun s => ⟨a, s, [], fun _ _ => rfl⟩

theorem Detached.within {work : World σ → α × World σ} (h : Detached work) (span : Span) :
    Detached fun w => w.within span work := by
  intro s
  obtain ⟨result, after, events, same⟩ := h.emit (.began span) s
  refine ⟨result, after, .ended :: events, fun process journal => ?_⟩
  have inside := same process journal
  dsimp only at inside ⊢
  rw [within_eq, inside]
  rfl

end World

namespace Link

open World

/-- The events of a connect that finds the network in some state. -/
def traceAt (net : Fabric σ) (kind : Kind) (endpoint : Endpoint) (config : Config) (s : σ) :
    Journal :=
  trace kind endpoint (outcome kind endpoint config (reply net endpoint config s))

/-- A connect neither reads the environment nor the journal. -/
theorem connect_detached (net : Fabric σ) (kind : Kind) (endpoint : Endpoint)
    (config : Config) : Detached (connect net kind endpoint config) := by
  intro s
  refine ⟨outcome kind endpoint config (reply net endpoint config s),
    next net endpoint config s, traceAt net kind endpoint config s, fun process journal => ?_⟩
  rw [connect_eq_of_reply]
  rfl

/-- An attempt after a failure finds the network as the failure left it, and a journal that
has grown by the same events whatever it was before. -/
theorem attempt_detached (net : Fabric σ) (config : Config) (endpoint : Endpoint)
    (number : UInt64) : Detached (attempt net config endpoint number) := by
  intro s
  let made := traceAt net .quiggeldy endpoint config s
  cases first : errorAfter net endpoint config s 0 with
  | none =>
    refine ⟨outcome .quiggeldy endpoint config (replyAfter net endpoint config s 0),
      next net endpoint config s, made, fun process journal => ?_⟩
    rw [attempt_of_no_error net endpoint config number ⟨s, process, journal⟩ first]
    rfl
  | some e =>
    have step := fun process journal =>
      attempt_of_error net endpoint config number ⟨s, process, journal⟩ e first
    by_cases below : number < config.attempts
    · have grown := toNat_succ_of_lt below
      obtain ⟨result, after, events, same⟩ :=
        attempt_detached net config endpoint (number + 1) (next net endpoint config s)
      let announced : Journal :=
        [.wait config.attemptWait,
         .notice (.retrying number.toNat config.attempts.toNat endpoint e)]
      refine ⟨result, after, events ++ (announced ++ made), fun process journal => ?_⟩
      rw [step, if_pos below, List.append_assoc]
      exact same process (announced ++ made ++ journal)
    · refine ⟨.failed (exhausted config endpoint e), next net endpoint config s, made,
        fun process journal => ?_⟩
      rw [step, if_neg below]
      rfl
termination_by config.attempts.toNat - number.toNat
decreasing_by
  have bound : number.toNat < config.attempts.toNat := below
  omega

end Link

theorem NetworkConnector.connectTo_detached (net : Fabric σ) (c : NetworkConnector)
    (s : Selection) : World.Detached (c.connectTo net s) := by
  cases s with
  | daemon endpoint => exact Link.attempt_detached net c.config endpoint 1
  | hardware ip => exact Link.connect_detached net .arq ⟨ip, c.config.arqPort⟩ c.config
  | simulation endpoint => exact Link.connect_detached net .sim endpoint c.config

end Tether
