import Tether.Proofs.Context.Bracket

/-!
# What contexts conserve

A quantity of the world may be kept together with what a context contributes to it. Then no
operation of the context changes the difference of the two, whatever the connector answers
and whatever becomes of the body: acquiring, holding, dropping and cancelling are all
covered by this one equation. A quantity that follows handles is of this kind: it grows by
the weight of each handle that a connector makes, shrinks by the weight of each handle that
it takes back, and is not moved by anything else.
-/
namespace Tether

variable {σ η α : Type}

/-- The weight of the handle in an outcome, if there is one. -/
def Outcome.weight (weight : η → Int) : Outcome η → Int
  | .done h => weight h
  | _ => 0

theorem Outcome.weight_map {β : Type} (weight : β → Int) (f : α → β) (r : Outcome α) :
    (r.map f).weight weight = r.weight fun a => weight (f a) := by
  cases r <;> rfl

namespace Context

/-- A quantity that moves with what a context contributes to it: taking a handle adds the
contribution, dropping it takes that away, and an answer that is no handle does neither. -/
structure Balanced (stock : World σ → Int) (share : Context η → Int) (c : Connector σ η) :
    Prop where
  empty : ∀ ctx : Context η, ctx.held = none → share ctx = 0
  taken : ∀ (ctx : Context η) w h after, ctx.acquire c w = (.done h, after) →
    stock (ctx.accept after) = stock w + share { ctx with held := some h }
  missed : ∀ (ctx : Context η) w, (∀ h, (ctx.acquire c w).1 ≠ .done h) →
    stock (ctx.acquire c w).2 = stock w
  parted : ∀ (ctx : Context η) h w,
    stock (ctx.part c h w) = stock w - share { ctx with held := some h }

/-- A body that keeps the quantity together with the contribution of the handle. -/
def Body.Steady (stock : World σ → Int) (share : Context η → Int) (body : Body σ η α) : Prop :=
  ∀ (ctx : Context η) h w,
    stock (body h w).2.2 - share { ctx with held := some (body h w).2.1 } =
      stock w - share { ctx with held := some h }

section

variable {stock : World σ → Int} {share : Context η → Int} {c : Connector σ η}

/-- Entering moves the quantity by what the new handle contributes, and by nothing if there
is none. -/
theorem enter_balanced (b : Balanced stock share c) (ctx : Context η) (w : World σ) :
    stock (ctx.enter c w).2.2 - share (ctx.enter c w).2.1 = stock w - share ctx := by
  cases held : ctx.held with
  | some handle => rw [enter_of_held c ctx w handle held]
  | none =>
    have nothing := b.empty ctx held
    have taken := b.taken ctx w
    have missed := b.missed ctx w
    rw [enter_of_empty c ctx w held]
    generalize ctx.acquire c w = answer at taken missed ⊢
    obtain ⟨handle | e | p | _, after⟩ := answer
    · have added := taken handle after rfl
      dsimp only
      omega
    all_goals
      have same := missed (by simp)
      dsimp only at same ⊢
      omega

/-- Exiting takes the contribution away together with the handle; a panic changes neither. -/
theorem exit_balanced (b : Balanced stock share c) (ctx : Context η) (w : World σ) :
    stock (ctx.exit c w).2.2 - share (ctx.exit c w).2.1 = stock w - share ctx := by
  obtain ⟨s, held⟩ := ctx
  cases held with
  | none => rw [exit_of_empty c _ w rfl]
  | some handle =>
    have nothing := b.empty { strategy := s } rfl
    have parted := b.parted { strategy := s } handle w
    rw [exit_of_held c _ w handle rfl]
    dsimp only [part] at parted ⊢
    omega

theorem use_balanced {body : Body σ η α} (steady : body.Steady stock share)
    (missing : Outcome α) (ctx : Context η) (w : World σ) :
    stock (ctx.use body missing w).2.2 - share (ctx.use body missing w).2.1 =
      stock w - share ctx := by
  obtain ⟨s, held⟩ := ctx
  cases held with
  | none => rfl
  | some handle => exact steady { strategy := s } handle w

/-- Leaked or not, and however the body ends. -/
theorem bracket_balanced (b : Balanced stock share c) (leak : Bool) {body : Body σ η α}
    (steady : body.Steady stock share) (ctx : Context η) (w : World σ) :
    stock (ctx.bracket c leak body w).2.2 - share (ctx.bracket c leak body w).2.1 =
      stock w - share ctx := by
  cases held : ctx.held with
  | some handle => rw [bracket_of_held c leak body ctx w handle held]
  | none =>
    have nothing := b.empty ctx held
    have taken := b.taken ctx w
    have missed := b.missed ctx w
    rw [bracket_of_empty c leak body ctx w held]
    generalize ctx.acquire c w = answer at taken missed ⊢
    obtain ⟨handle | e | p | _, after⟩ := answer
    · have added := taken handle after rfl
      have kept := steady ctx handle (ctx.accept after)
      dsimp only
      generalize body handle (ctx.accept after) = worked at kept ⊢
      obtain ⟨result, handle', after'⟩ := worked
      have parted := b.parted ctx handle' after'
      dsimp only at kept
      -- A leaked guard keeps the contribution; any other end gives it back.
      split <;> dsimp only <;> omega
    all_goals
      have same := missed (by simp)
      dsimp only at same ⊢
      omega

end

/-- The weight of what a context holds. -/
def load (weight : η → Int) (ctx : Context η) : Int := ctx.held.elim 0 weight

/-- The events that a context writes itself. -/
def writes (s : Strategy) : List Event :=
  [.began (.entering s), .ended, .count (.entered s.label), .notice (.entered s),
   .count (.exited s.label), .notice (.exited s)]

/-- A quantity that follows the handles of a connector. -/
structure Follows (stock : World σ → Int) (weight : η → Int) (c : Connector σ η) : Prop where
  made : ∀ call w, stock (c.connect call w).2 = stock w + (c.connect call w).1.weight weight
  dropped : ∀ h w, stock (c.release h w) = stock w - weight h
  unmoved : ∀ s, ∀ e ∈ writes s, ∀ w, stock (w.emit e) = stock w

/-- A body under which the quantity follows the handle that it works on. -/
def Body.Keeps (stock : World σ → Int) (weight : η → Int) (body : Body σ η α) : Prop :=
  ∀ h w, stock (body h w).2.2 - weight (body h w).2.1 = stock w - weight h

variable {stock : World σ → Int} {weight : η → Int} {c : Connector σ η}

theorem Follows.acquired (h : Follows stock weight c) (ctx : Context η) (w : World σ) :
    stock (ctx.acquire c w).2 = stock w + (ctx.acquire c w).1.weight weight := by
  have began := h.unmoved ctx.strategy (.began (.entering ctx.strategy)) (by simp [writes]) w
  have made := h.made ctx.strategy.call (w.emit (.began (.entering ctx.strategy)))
  have ended := h.unmoved ctx.strategy .ended (by simp [writes])
    (c.connect ctx.strategy.call (w.emit (.began (.entering ctx.strategy)))).2
  rw [acquire, World.within_eq, ended, made, began]

theorem Follows.accepted (h : Follows stock weight c) (ctx : Context η) (w : World σ) :
    stock (ctx.accept w) = stock w :=
  (h.unmoved ctx.strategy (.notice (.entered ctx.strategy)) (by simp [writes]) _).trans
    (h.unmoved ctx.strategy (.count (.entered ctx.strategy.label)) (by simp [writes]) w)

/-- Dropping a handle takes its weight away, and the events around it weigh nothing. -/
theorem Follows.parted (h : Follows stock weight c) (ctx : Context η) (handle : η)
    (w : World σ) : stock (ctx.part c handle w) = stock w - weight handle := by
  have noticed := h.unmoved ctx.strategy (.notice (.exited ctx.strategy)) (by simp [writes])
    ((c.release handle w).count (.exited ctx.strategy.label))
  have counted := h.unmoved ctx.strategy (.count (.exited ctx.strategy.label)) (by simp [writes])
    (c.release handle w)
  exact noticed.trans (counted.trans (h.dropped handle w))

/-- Following handles is a case of being balanced: what a context contributes is the weight
of its handle. -/
theorem Follows.balanced (h : Follows stock weight c) : Balanced stock (load weight) c where
  empty ctx held := by rw [load, held]; rfl
  taken ctx w handle after answer := by
    have acquired := h.acquired ctx w
    rw [answer] at acquired
    exact (h.accepted ctx after).trans acquired
  missed ctx w refused := by
    have acquired := h.acquired ctx w
    cases answer : (ctx.acquire c w).1 with
    | done handle => exact absurd answer (refused handle)
    | _ => simpa [answer, Outcome.weight] using acquired
  parted ctx handle w := h.parted ctx handle w

/-- A body that accounts for its handle is steady on every context that holds it. -/
theorem Body.Keeps.steady {body : Body σ η α} (keeps : body.Keeps stock weight) :
    body.Steady stock (load weight) :=
  fun _ handle w => keeps handle w

/-- The quantity less what the context holds is the same before and after. -/
theorem enter_conserves (h : Follows stock weight c) (ctx : Context η) (w : World σ) :
    stock (ctx.enter c w).2.2 - (ctx.enter c w).2.1.load weight = stock w - ctx.load weight :=
  enter_balanced h.balanced ctx w

theorem exit_conserves (h : Follows stock weight c) (ctx : Context η) (w : World σ) :
    stock (ctx.exit c w).2.2 - (ctx.exit c w).2.1.load weight = stock w - ctx.load weight :=
  exit_balanced h.balanced ctx w

theorem use_conserves {body : Body σ η α} (keeps : body.Keeps stock weight)
    (missing : Outcome α) (ctx : Context η) (w : World σ) :
    stock (ctx.use body missing w).2.2 - (ctx.use body missing w).2.1.load weight =
      stock w - ctx.load weight :=
  use_balanced keeps.steady missing ctx w

/-- So a bracket neither loses nor keeps a handle, unless the guard is leaked and the
context has it. -/
theorem bracket_conserves (h : Follows stock weight c) (leak : Bool) {body : Body σ η α}
    (keeps : body.Keeps stock weight) (ctx : Context η) (w : World σ) :
    stock (ctx.bracket c leak body w).2.2 - (ctx.bracket c leak body w).2.1.load weight =
      stock w - ctx.load weight :=
  bracket_balanced h.balanced leak keeps.steady ctx w

/-- A context that is dropped takes its handle along; nothing stays behind. -/
theorem release_conserves (h : Follows stock weight c) (ctx : Context η) (w : World σ) :
    stock (ctx.release c w) = stock w - ctx.load weight := by
  obtain ⟨s, held⟩ := ctx
  cases held with
  | none => simp [release, load]
  | some handle => exact h.dropped handle w

end Context
end Tether
