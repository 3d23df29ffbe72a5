import Tether.Proofs.TimeInfo.Sum

/-!
# Differences of time information

Fields are subtracted as natural numbers are: the difference is exact and stops at zero. It
undoes an addition, and what it takes away can always be added again, which gives the larger
of the two durations in each field. Taking away two times in turn is taking away their sum.
-/
namespace Tether.TimeInfo

/-- No field is longer than that of another. -/
def AtMost (a b : TimeInfo) : Prop := ∀ f, (a.field f).toNanos ≤ (b.field f).toNanos

@[simp] theorem field_sub (a b : TimeInfo) (f : Field) :
    (a.sub b).field f = (a.field f).sub (b.field f) := by
  cases f <;> rfl

theorem toNanos_field_sub (a b : TimeInfo) (f : Field) :
    ((a.sub b).field f).toNanos = (a.field f).toNanos - (b.field f).toNanos := by
  rw [field_sub, Duration.toNanos_sub]

/-- A sum that is there can be undone exactly. -/
theorem sub_of_add? (a b s : TimeInfo) (added : a.add? b = some s) : s.sub b = a := by
  have sum := (add?_eq_some_iff a b s).mp added
  refine eq_of_toNanos_eq fun f => ?_
  rw [toNanos_field_sub, sum f, Nat.add_sub_cancel]

/-- The exact sum is the larger of two durations, so it is never too long. -/
theorem exists_sub_add? (a b : TimeInfo) : ∃ m, (a.sub b).add? b = some m ∧
    ∀ f, (m.field f).toNanos = max (a.field f).toNanos (b.field f).toNanos := by
  have sums : ∀ f, ((a.sub b).field f).toNanos + (b.field f).toNanos =
      max (a.field f).toNanos (b.field f).toNanos := fun f => by
    rw [toNanos_field_sub, Nat.sub_add_eq_max]
  obtain ⟨m, added⟩ := exists_add? (a.sub b) b fun f => by
    rw [sums f]
    exact Nat.max_le.mpr ⟨(a.field f).toNanos_le_longest, (b.field f).toNanos_le_longest⟩
  exact ⟨m, added, fun f => ((add?_eq_some_iff _ _ _).mp added f).trans (sums f)⟩

/-- Taking away in two steps stops at zero as taking away the sum does. -/
theorem sub_sub_of_add? (a b c s : TimeInfo) (added : b.add? c = some s) :
    (a.sub b).sub c = a.sub s := by
  have sum := (add?_eq_some_iff b c s).mp added
  refine eq_of_toNanos_eq fun f => ?_
  rw [toNanos_field_sub, toNanos_field_sub, toNanos_field_sub, sum f, Nat.sub_sub]

theorem sub_atMost_iff (a b c s : TimeInfo) (added : b.add? c = some s) :
    (a.sub b).AtMost c ↔ a.AtMost s := by
  have sum := (add?_eq_some_iff b c s).mp added
  refine forall_congr' fun f => ?_
  rw [toNanos_field_sub, sum f, Nat.sub_le_iff_le_add']

/-- Subtraction is total and exact in normal form down to zero. It undoes an addition; a
difference and what was taken away always have a sum, the larger of the two; the difference
from a sum is taken in two steps, and is the least that reaches up again. A register is
subtracted from in the same way. -/
theorem sub_inverts_addition (a b c : TimeInfo) :
    (∀ f, ((a.sub b).field f).Normal ((a.field f).toNanos - (b.field f).toNanos)) ∧
    (∀ s, a.add? b = some s → s.sub b = a) ∧
    (∃ m, (a.sub b).add? b = some m ∧
      ∀ f, (m.field f).toNanos = max (a.field f).toNanos (b.field f).toNanos) ∧
    (∀ s, b.add? c = some s →
      (a.sub b).sub c = a.sub s ∧ ((a.sub b).AtMost c ↔ a.AtMost s)) ∧
    a.deduct b = a.sub b :=
  ⟨fun f => (Duration.normal_iff _ _).mpr (toNanos_field_sub a b f), sub_of_add? a b,
    exists_sub_add? a b,
    fun s added => ⟨sub_sub_of_add? a b c s added, sub_atMost_iff a b c s added⟩, rfl⟩

end Tether.TimeInfo
