/-!
# Durations

A duration is a count of whole seconds below 2^64 and a rest of nanoseconds below
one second, so equal durations have equal parts. Addition carries a full second
out of the nanoseconds and is undefined past the largest duration; subtraction
borrows a second and stops at zero.
-/
namespace Tether

def nanosPerSecond : Nat := 1000000000

/-- Whole seconds and the nanoseconds of a started second. -/
structure Duration where
  secs : Nat
  nanos : Nat
  secs_lt : secs < 18446744073709551616 := by omega
  nanos_lt : nanos < 1000000000 := by omega
  deriving DecidableEq, Repr

namespace Duration

def zero : Duration := { secs := 0, nanos := 0 }

instance : Inhabited Duration := ⟨zero⟩

/-- The exact length in nanoseconds. -/
def toNanos (d : Duration) : Nat := d.secs * nanosPerSecond + d.nanos

/-- Brings any count of nanoseconds into normal form, carrying whole seconds.
Undefined if the seconds then need more than 64 bits. -/
def ofParts? (secs nanos : Nat) : Option Duration :=
  if h : secs + nanos / 1000000000 < 18446744073709551616 then
    some { secs := secs + nanos / 1000000000
           nanos := nanos % 1000000000
           secs_lt := h
           nanos_lt := Nat.mod_lt _ (by decide) }
  else none

def add? (a b : Duration) : Option Duration :=
  ofParts? (a.secs + b.secs) (a.nanos + b.nanos)

/-- The difference, or zero where it would be negative. -/
def sub (a b : Duration) : Duration :=
  have ha := a.secs_lt
  have hn := a.nanos_lt
  if a.secs < b.secs then zero
  else if h : b.nanos ≤ a.nanos then
    { secs := a.secs - b.secs, nanos := a.nanos - b.nanos }
  else if a.secs = b.secs then zero
  else { secs := a.secs - b.secs - 1, nanos := a.nanos + 1000000000 - b.nanos }

/-- A number of milliseconds below 2^64. -/
def ofMillis (n : Nat) (h : n < 18446744073709551616 := by decide) : Duration :=
  { secs := n / 1000
    nanos := n % 1000 * 1000000 }

/-- Whole milliseconds needed to cover the duration: the first tick of a
millisecond clock, started with it, at which it is over. -/
def ticks (d : Duration) : Nat := (d.toNanos + 999999) / 1000000

@[simp] theorem toNanos_zero : zero.toNanos = 0 := rfl

/-- Durations are in normal form, so equal lengths are equal durations. -/
theorem eq_of_toNanos_eq {a b : Duration} (h : a.toNanos = b.toNanos) : a = b := by
  obtain ⟨s, n, hs, hn⟩ := a
  obtain ⟨t, m, ht, hm⟩ := b
  simp only [toNanos, nanosPerSecond] at h
  have h1 : s = t := by omega
  have h2 : n = m := by omega
  subst h1 h2
  rfl

end Duration
end Tether
