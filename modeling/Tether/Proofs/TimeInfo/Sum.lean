import Tether.Proofs.Duration.Exact
import Tether.TimeInfo

/-!
# Sums of time information

The four fields are added one after another, and each sum is exact or does not exist. So
an addition is exact in every field or stops at the first field whose sum is too long; which
of the two it is depends on the exact sums alone. From this addition is commutative and
associative, the additions that do not exist included.
-/
namespace Tether.TimeInfo

/-- The fields in the order in which they are added. -/
inductive Field where
  | encode | decode | commit | execution
  deriving DecidableEq, Repr

def Field.all : List Field := [.encode, .decode, .commit, .execution]

theorem Field.mem_all (f : Field) : f ∈ all := by
  cases f <;> decide

def Field.place : Field → Nat
  | encode => 0
  | decode => 1
  | commit => 2
  | execution => 3

def field (t : TimeInfo) : Field → Duration
  | .encode => t.encode
  | .decode => t.decode
  | .commit => t.commit
  | .execution => t.execution

/-- Every field is the exact sum of two others. -/
def IsSum (s t d : TimeInfo) : Prop :=
  ∀ f, (s.field f).toNanos = (t.field f).toNanos + (d.field f).toNanos

/-- The sum of a field is longer than the longest duration. -/
def Exceeds (t d : TimeInfo) (f : Field) : Prop :=
  Duration.longest.toNanos < (t.field f).toNanos + (d.field f).toNanos

instance (t d : TimeInfo) (f : Field) : Decidable (t.Exceeds d f) :=
  inferInstanceAs (Decidable (_ < _))

/-- What a register keeps of an addition that stops at a field: the sums of the fields
before it, and the old durations from there on. -/
structure Stopped (t d kept : TimeInfo) (f : Field) : Prop where
  exceeds : t.Exceeds d f
  before : ∀ g, g.place < f.place →
    (kept.field g).toNanos = (t.field g).toNanos + (d.field g).toNanos
  rest : ∀ g, f.place ≤ g.place → kept.field g = t.field g

/-- What an addition to a register adds to a field: all of it, unless the sum of this field
or of an earlier one is too long. -/
def applied (t d : TimeInfo) (f : Field) : Nat :=
  if ∃ g ∈ Field.all, g.place ≤ f.place ∧ t.Exceeds d g then 0 else (d.field f).toNanos

/-- How an addition to a register can go. -/
inductive Accumulates (t d : TimeInfo) : Accumulation → Prop
  | complete {total : TimeInfo} (sum : total.IsSum t d) : Accumulates t d (.complete total)
  | overflow {kept : TimeInfo} (f : Field) (stopped : Stopped t d kept f) :
    Accumulates t d (.overflow kept)

theorem eq_of_toNanos_eq {a b : TimeInfo}
    (same : ∀ f, (a.field f).toNanos = (b.field f).toNanos) : a = b := by
  have fields : ∀ f, a.field f = b.field f := fun f => Duration.eq_of_toNanos_eq (same f)
  obtain ⟨encode, decode, commit, execution⟩ := a
  obtain rfl : encode = b.encode := fields .encode
  obtain rfl : decode = b.decode := fields .decode
  obtain rfl : commit = b.commit := fields .commit
  obtain rfl : execution = b.execution := fields .execution
  rfl

@[simp] theorem field_zero (f : Field) : (({} : TimeInfo).field f).toNanos = 0 := by
  cases f <;> rfl

/-- An addition to a register is complete, or stops at the first field that is too long. -/
theorem accumulate_accumulates (t d : TimeInfo) : Accumulates t d (t.accumulate d) := by
  unfold accumulate
  split
  next long =>
    refine .overflow .encode ⟨(Duration.add?_eq_none_iff _ _).mp long, fun g early => ?_,
      fun g _ => rfl⟩
    exact absurd early (Nat.not_lt_zero _)
  next e encoded =>
    have encoded := (Duration.add?_eq_some_iff _ _ _).mp encoded
    dsimp only
    split
    next long =>
      refine .overflow .decode ⟨(Duration.add?_eq_none_iff _ _).mp long, fun g early => ?_,
        fun g late => ?_⟩
      · cases g with
        | encode => exact encoded
        | _ => simp [Field.place] at early
      · cases g with
        | encode => simp [Field.place] at late
        | _ => rfl
    next e decoded =>
      have decoded := (Duration.add?_eq_some_iff _ _ _).mp decoded
      split
      next long =>
        refine .overflow .commit ⟨(Duration.add?_eq_none_iff _ _).mp long, fun g early => ?_,
          fun g late => ?_⟩
        · cases g with
          | encode => exact encoded
          | decode => exact decoded
          | _ => simp [Field.place] at early
        · cases g with
          | encode => simp [Field.place] at late
          | decode => simp [Field.place] at late
          | _ => rfl
      next e committed =>
        have committed := (Duration.add?_eq_some_iff _ _ _).mp committed
        split
        next long =>
          refine .overflow .execution ⟨(Duration.add?_eq_none_iff _ _).mp long,
            fun g early => ?_, fun g late => ?_⟩
          · cases g with
            | encode => exact encoded
            | decode => exact decoded
            | commit => exact committed
            | execution => simp at early
          · cases g with
            | execution => rfl
            | _ => simp [Field.place] at late
        next e executed =>
          have executed := (Duration.add?_eq_some_iff _ _ _).mp executed
          refine .complete fun g => ?_
          cases g with
          | encode => exact encoded
          | decode => exact decoded
          | commit => exact committed
          | execution => exact executed

theorem applied_eq_zero (t d : TimeInfo) (f g : Field) (early : g.place ≤ f.place)
    (long : t.Exceeds d g) : t.applied d f = 0 :=
  if_pos ⟨g, g.mem_all, early, long⟩

theorem applied_of_short (t d : TimeInfo) (f : Field)
    (short : ∀ g, g.place ≤ f.place → ¬t.Exceeds d g) : t.applied d f = (d.field f).toNanos :=
  if_neg fun ⟨g, _, early, long⟩ => short g early long

/-- A sum that is a duration is not too long. -/
theorem not_exceeds_of_sum {t d : TimeInfo} {f : Field} (e : Duration)
    (sum : e.toNanos = (t.field f).toNanos + (d.field f).toNanos) : ¬t.Exceeds d f := by
  have bound := e.toNanos_le_longest
  rw [sum] at bound
  exact Nat.not_lt.mpr bound

/-- Whether an addition is completed or stops, each field of the register grows by what is
applied to it. -/
theorem register_accumulate (t d : TimeInfo) (f : Field) :
    ((t.accumulate d).register.field f).toNanos = (t.field f).toNanos + t.applied d f := by
  have accumulated := accumulate_accumulates t d
  generalize t.accumulate d = answer at accumulated ⊢
  cases accumulated with
  | @complete total sum =>
    rw [applied_of_short t d f fun g _ => not_exceeds_of_sum (total.field g) (sum g)]
    exact sum f
  | @overflow kept stop stopped =>
    by_cases early : f.place < stop.place
    · have short : ∀ g, g.place ≤ f.place → ¬t.Exceeds d g := fun g below =>
        not_exceeds_of_sum (kept.field g) (stopped.before g (by omega))
      rw [applied_of_short t d f short]
      exact stopped.before f early
    · have late : stop.place ≤ f.place := Nat.le_of_not_lt early
      rw [applied_eq_zero t d f stop late stopped.exceeds, Nat.add_zero]
      exact congrArg Duration.toNanos (stopped.rest f late)

/-- Fields do not carry into each other. -/
theorem add?_eq_some_iff (a b s : TimeInfo) : a.add? b = some s ↔ s.IsSum a b := by
  have accumulated := accumulate_accumulates a b
  unfold add?
  generalize a.accumulate b = answer at accumulated ⊢
  cases accumulated with
  | complete sum =>
    rw [Option.some.injEq]
    constructor
    · rintro rfl
      exact sum
    · intro same
      exact eq_of_toNanos_eq fun f => (sum f).trans (same f).symm
  | overflow f stopped =>
    refine ⟨fun none => (by cases none), fun sum => ?_⟩
    exact absurd stopped.exceeds (not_exceeds_of_sum (s.field f) (sum f))

theorem add?_eq_none_iff (a b : TimeInfo) : a.add? b = none ↔ ∃ f, a.Exceeds b f := by
  have accumulated := accumulate_accumulates a b
  unfold add?
  generalize a.accumulate b = answer at accumulated ⊢
  cases accumulated with
  | @complete total sum =>
    refine ⟨fun none => (by cases none), fun ⟨f, long⟩ => ?_⟩
    exact absurd long (not_exceeds_of_sum (total.field f) (sum f))
  | overflow f stopped => exact ⟨fun _ => ⟨f, stopped.exceeds⟩, fun _ => rfl⟩

/-- Sums that are short enough in every field are there. -/
theorem exists_add? (a b : TimeInfo)
    (short : ∀ f, (a.field f).toNanos + (b.field f).toNanos ≤ Duration.longest.toNanos) :
    ∃ s, a.add? b = some s := by
  cases added : a.add? b with
  | some s => exact ⟨s, rfl⟩
  | none =>
    obtain ⟨f, long⟩ := (add?_eq_none_iff a b).mp added
    exact absurd long (Nat.not_lt.mpr (short f))

theorem add?_comm (a b : TimeInfo) : a.add? b = b.add? a := by
  apply Option.ext
  intro s
  rw [add?_eq_some_iff, add?_eq_some_iff]
  exact forall_congr' fun f => by rw [Nat.add_comm]

/-- Of three summands the sum is there if the exact sums are short enough. That the first
two have one is no condition of its own, since their sum is no longer. -/
theorem add?_bind_eq_some_iff (a b c s : TimeInfo) :
    (a.add? b).bind (·.add? c) = some s ↔
      ∀ f, (s.field f).toNanos =
        (a.field f).toNanos + (b.field f).toNanos + (c.field f).toNanos := by
  rw [Option.bind_eq_some_iff]
  constructor
  · rintro ⟨first, added, rest⟩ f
    have first_sum := (add?_eq_some_iff _ _ _).mp added f
    have sum := (add?_eq_some_iff _ _ _).mp rest f
    omega
  · intro sum
    have short : ∀ f, (a.field f).toNanos + (b.field f).toNanos ≤ Duration.longest.toNanos := by
      intro f
      have bound := (s.field f).toNanos_le_longest
      have total := sum f
      omega
    obtain ⟨first, added⟩ := exists_add? a b short
    refine ⟨first, added, (add?_eq_some_iff _ _ _).mpr fun f => ?_⟩
    have first_sum := (add?_eq_some_iff _ _ _).mp added f
    have total := sum f
    omega

/-- Both orders overflow on the same summands. -/
theorem add?_assoc (a b c : TimeInfo) :
    (a.add? b).bind (·.add? c) = (b.add? c).bind (a.add? ·) := by
  have turned : (b.add? c).bind (a.add? ·) = (b.add? c).bind (·.add? a) :=
    congrArg ((b.add? c).bind ·) (funext fun s => add?_comm a s)
  rw [turned]
  apply Option.ext
  intro s
  rw [add?_bind_eq_some_iff, add?_bind_eq_some_iff]
  refine forall_congr' fun f => ?_
  omega

theorem add?_zero (a : TimeInfo) : a.add? {} = some a :=
  (add?_eq_some_iff a {} a).mpr fun f => by rw [field_zero, Nat.add_zero]

/-- Addition is exact in normal form, and undefined just where some exact sum is longer than
the longest duration. Neither the order of the summands nor that of the additions matters,
also for whether there is a sum, and zero changes nothing. On a register the addition is the
same where there is a sum, and otherwise stops at the first field that is too long. -/
theorem add_exact_in_any_order (a b c : TimeInfo) :
    (a.add? b = none ↔ ∃ f, a.Exceeds b f) ∧
    (∀ s, a.add? b = some s →
      ∀ f, (s.field f).Normal ((a.field f).toNanos + (b.field f).toNanos)) ∧
    a.add? b = b.add? a ∧
    (a.add? b).bind (·.add? c) = (b.add? c).bind (a.add? ·) ∧
    a.add? {} = some a ∧ TimeInfo.add? {} a = some a ∧
    (∀ s, a.add? b = some s → a.accumulate b = .complete s) ∧
    (a.add? b = none → ∃ kept f, a.accumulate b = .overflow kept ∧ Stopped a b kept f) := by
  refine ⟨add?_eq_none_iff a b, fun s added f => ?_, add?_comm a b, add?_assoc a b c, add?_zero a,
    (add?_comm {} a).trans (add?_zero a), fun s added => ?_, fun missing => ?_⟩
  · exact (Duration.normal_iff _ _).mpr ((add?_eq_some_iff a b s).mp added f)
  · unfold add? at added
    split at added
    next total summed => rw [summed, Option.some.inj added]
    next => cases added
  · have accumulated := accumulate_accumulates a b
    unfold add? at missing
    split at missing
    next => cases missing
    next kept summed =>
      rw [summed] at accumulated
      cases accumulated with
      | overflow f stopped => exact ⟨kept, f, summed, stopped⟩

end Tether.TimeInfo
