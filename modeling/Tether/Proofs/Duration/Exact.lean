import Tether.Duration

/-!
# Durations as exact numbers

A duration is known by its length in nanoseconds: its seconds are the quotient of that by
a second, and its nanoseconds the remainder. Addition is exact up to the longest duration
and undefined beyond it, also where nothing but the carried second does not fit.
Subtraction is that of natural numbers, with the same borrow and the same stop at zero.
-/
namespace Tether.Duration

def longest : Duration := { secs := 18446744073709551615, nanos := 999999999 }

/-- The duration shows a count of nanoseconds in normal form: whole seconds, and a rest
below one second. -/
structure Normal (d : Duration) (n : Nat) : Prop where
  secs : d.secs = n / nanosPerSecond
  nanos : d.nanos = n % nanosPerSecond

/-- There is one normal form for each count, and every duration is in it. -/
theorem normal_iff (d : Duration) (n : Nat) : d.Normal n ↔ d.toNanos = n := by
  have rest := d.nanos_lt
  constructor
  · rintro ⟨secs, nanos⟩
    simp only [nanosPerSecond] at secs nanos
    simp only [toNanos, nanosPerSecond]
    omega
  · rintro rfl
    constructor <;> simp only [toNanos, nanosPerSecond] <;> omega

theorem toNanos_le_longest (d : Duration) : d.toNanos ≤ longest.toNanos := by
  have secs := d.secs_lt
  have nanos := d.nanos_lt
  simp only [toNanos, longest, nanosPerSecond]
  omega

/-- Carrying loses nothing: what comes out is as long as the parts together. -/
theorem ofParts?_eq_some_iff (secs nanos : Nat) (d : Duration) :
    ofParts? secs nanos = some d ↔ d.toNanos = secs * nanosPerSecond + nanos := by
  unfold ofParts?
  split
  next fits =>
    rw [Option.some.injEq]
    constructor
    · rintro rfl
      simp only [toNanos, nanosPerSecond]
      omega
    · intro exact
      refine eq_of_toNanos_eq ?_
      rw [exact]
      simp only [toNanos, nanosPerSecond]
      omega
  next fits =>
    refine ⟨fun none => (by cases none), fun exact => ?_⟩
    have secs := d.secs_lt
    have nanos := d.nanos_lt
    simp only [toNanos, nanosPerSecond] at exact
    omega

/-- The longest duration is the only limit. -/
theorem ofParts?_eq_none_iff (secs nanos : Nat) :
    ofParts? secs nanos = none ↔ longest.toNanos < secs * nanosPerSecond + nanos := by
  unfold ofParts?
  simp only [toNanos, longest, nanosPerSecond]
  split
  next fits => exact ⟨fun none => (by cases none), fun long => (by omega)⟩
  next fits => exact ⟨fun _ => (by omega), fun _ => rfl⟩

/-- A sum is characterised by its length alone, so no later proof has to look at carries. -/
theorem add?_eq_some_iff (a b d : Duration) :
    a.add? b = some d ↔ d.toNanos = a.toNanos + b.toNanos := by
  rw [add?, ofParts?_eq_some_iff]
  simp only [toNanos, nanosPerSecond]
  omega

theorem add?_eq_none_iff (a b : Duration) :
    a.add? b = none ↔ longest.toNanos < a.toNanos + b.toNanos := by
  rw [add?, ofParts?_eq_none_iff]
  simp only [toNanos, longest, nanosPerSecond]
  omega

-- The seconds fit; the one carried out of the nanoseconds does not.
example : longest.add? { secs := 0, nanos := 1 } = none := rfl

/-- The borrow is decided on the nanoseconds and the stop at zero on both parts. -/
@[simp] theorem toNanos_sub (a b : Duration) : (a.sub b).toNanos = a.toNanos - b.toNanos := by
  have minuend := a.nanos_lt
  have subtrahend := b.nanos_lt
  unfold sub
  split
  next below =>
    rw [toNanos_zero]
    simp only [toNanos, nanosPerSecond]
    omega
  next =>
    split
    next enough =>
      simp only [toNanos, nanosPerSecond]
      omega
    next =>
      split
      next even =>
        rw [toNanos_zero]
        simp only [toNanos, nanosPerSecond, even]
        omega
      next =>
        simp only [toNanos, nanosPerSecond]
        omega

end Tether.Duration
