import Tether.Proofs.Link.Wire
import Tether.Proofs.TimeInfo.Sum
import Tether.Session.Handle

/-!
# The time of a link

Two things add to the time of a link: records add to every field, commits that return ok
add what the clock shows for them to the commit time. Over a life each field is the exact sum
of what was added to it, whatever else was tried in between. A sum that is too long is a
panic: a record then keeps the fields before the one that is too long, and a commit, which
has handed over its bytes by then, leaves the link as it was.
-/
namespace Tether.Link

open TimeInfo (Field)
open Holdings (Established)

variable {σ : Type}

/-- What the clock shows to have passed while bytes were written and flushed. -/
def elapsed (net : Fabric σ) (t : Transport) (bytes : List UInt8) (w : World σ) : Duration :=
  (net.now (net.flush t.socket (net.write t.socket bytes w.net).2).2).sub (net.now w.net)

/-- What a deed adds to a field as a record: its delta, as far as that is applied. -/
def noted (l : Link) (f : Field) : Deed → Nat
  | .record delta => l.time.applied delta f
  | _ => 0

/-- What a deed with its outcome adds to the commit time as a commit that returned ok. -/
def timed (net : Fabric σ) (t : Transport) (w : World σ) : Deed × Outcome Unit → Nat
  | (.commit bytes, .done _) => (elapsed net t bytes w).toNanos
  | _ => 0

def recorded (net : Fabric σ) (f : Field) (l : Link) : List (World σ × Deed) → Nat
  | [] => 0
  | (w, d) :: rest => l.noted f d + (l.perform net d w).2.1.recorded net f rest

/-- What the commits of a life that returned ok add to the commit time. -/
def measured (net : Fabric σ) (t : Transport) (l : Link) : List (World σ × Deed) → Nat
  | [] => 0
  | (w, d) :: rest =>
    timed net t w (d, (l.perform net d w).1) + (l.perform net d w).2.1.measured net t rest

/-- A commit whose bytes were sent depends on whether its time can be added. -/
theorem commit_of_sent (net : Fabric σ) (bytes : List UInt8) (l : Link) (t : Transport)
    (w : World σ) (state : l.state = .opened) (transport : l.transport = some t)
    (sent : net.sendFault? t.socket bytes w.net = none) :
    l.commit net bytes w =
      match l.time.commit.add? (elapsed net t bytes w) with
      | none => (.panicked .durationOverflow, l, (t.send net bytes w).2)
      | some d =>
        (.done (), { l with time := { l.time with commit := d } }, (t.send net bytes w).2) := by
  rw [commit_of_open net bytes l t w state transport, send_of_no_fault net t bytes w sent]
  rfl

/-- No time is added for bytes that failed, and the link is given up. -/
theorem commit_of_unsent (net : Fabric σ) (bytes : List UInt8) (l : Link) (t : Transport)
    (w : World σ) (fault : Fault) (state : l.state = .opened) (transport : l.transport = some t)
    (unsent : net.sendFault? t.socket bytes w.net = some fault) :
    l.commit net bytes w =
      (.failed (.io fault), l.abort net t (.io fault) (t.send net bytes w).2) := by
  rw [commit_of_open net bytes l t w state transport, send_of_fault net t bytes w fault unsent]

/-- The ways in which a commit on a link can go. -/
inductive Commits (net : Fabric σ) (t : Transport) (bytes : List UInt8) (l : Link) (w : World σ) :
    Outcome Unit × Link × World σ → Prop
  | rejected (state : l.state ≠ .opened) :
    Commits net t bytes l w (.failed (.invalidState (.notOpen l.state)), l, w)
  | failed {fault : Fault} (state : l.state = .opened)
    (unsent : net.sendFault? t.socket bytes w.net = some fault) :
    Commits net t bytes l w
      (.failed (.io fault), l.abort net t (.io fault) (t.send net bytes w).2)
  | panicked (state : l.state = .opened) (sent : net.sendFault? t.socket bytes w.net = none)
    (long : Duration.longest.toNanos <
      l.time.commit.toNanos + (elapsed net t bytes w).toNanos) :
    Commits net t bytes l w (.panicked .durationOverflow, l, (t.send net bytes w).2)
  | done {d : Duration} (state : l.state = .opened)
    (sent : net.sendFault? t.socket bytes w.net = none)
    (sum : d.toNanos = l.time.commit.toNanos + (elapsed net t bytes w).toNanos) :
    Commits net t bytes l w
      (.done (), { l with time := { l.time with commit := d } }, (t.send net bytes w).2)

/-- Four courses, of which one is a panic: the bytes were sent and their time does not fit. -/
theorem Sound.commits {t : Transport} {l : Link} (h : Sound t l) (net : Fabric σ)
    (bytes : List UInt8) (w : World σ) : Commits net t bytes l w (l.commit net bytes w) := by
  cases h with
  | closed state transport =>
    have unusable : l.state ≠ .opened := by simp [state]
    rw [commit_of_not_open net bytes l w unusable]
    exact .rejected unusable
  | opened state transport =>
    cases sent : net.sendFault? t.socket bytes w.net with
    | some fault =>
      rw [commit_of_unsent net bytes l t w fault state transport sent]
      exact .failed state sent
    | none =>
      rw [commit_of_sent net bytes l t w state transport sent]
      cases added : l.time.commit.add? (elapsed net t bytes w) with
      | none => exact .panicked state sent ((Duration.add?_eq_none_iff _ _).mp added)
      | some d => exact .done state sent ((Duration.add?_eq_some_iff _ _ _).mp added)

theorem close_time (net : Fabric σ) (t : Transport) (l : Link) (w : World σ) (h : Sound t l) :
    (l.close net w).2.1.time = l.time := by
  cases h with
  | opened state transport => rw [close_of_open net l t w state transport]
  | closed state transport => rw [close_of_not_open net l w (by simp [state])]

/-- A record is complete or stops at the first field that is too long; the state of the link
makes no difference. -/
theorem record_cases (d : TimeInfo) (l : Link) :
    ((l.record d).1 = .done () ∧ (l.record d).2.time.IsSum l.time d) ∨
      ((l.record d).1 = .panicked .durationOverflow ∧
        ∃ f, TimeInfo.Stopped l.time d (l.record d).2.time f) := by
  have accumulated := TimeInfo.accumulate_accumulates l.time d
  unfold record
  generalize l.time.accumulate d = answer at accumulated ⊢
  cases accumulated with
  | complete sum => exact .inl ⟨rfl, sum⟩
  | overflow f stopped => exact .inr ⟨rfl, f, stopped⟩

/-- What a deed adds to a field: what it notes, and to the commit time what it measures. -/
theorem perform_time (net : Fabric σ) (t : Transport) (d : Deed) (l : Link) (w : World σ)
    (f : Field) (h : Sound t l) :
    ((l.perform net d w).2.1.time.field f).toNanos =
      (l.time.field f).toNanos + l.noted f d +
        if f = .commit then timed net t w (d, (l.perform net d w).1) else 0 := by
  cases d with
  | commit bytes =>
    have committed := h.commits net bytes w
    rw [perform]
    generalize l.commit net bytes w = answer at committed ⊢
    cases committed with
    | rejected state => simp [noted, timed]
    | failed state unsent => simp [noted, timed, abort]
    | panicked state sent long => simp [noted, timed]
    | done state sent sum =>
      cases f with
      | commit => simpa [noted, timed, TimeInfo.field] using sum
      | _ => simp [noted, TimeInfo.field]
  | close =>
    rw [perform, close_time net t l w h]
    simp [noted, timed]
  | record delta =>
    rw [perform, record_link]
    simpa [noted, timed] using TimeInfo.register_accumulate l.time delta f

/-- By induction on the life; `perform_time` is what one deed adds. -/
theorem after_time (net : Fabric σ) (t : Transport) (l : Link) (life : List (World σ × Deed))
    (f : Field) (h : Sound t l) :
    ((l.after net life).time.field f).toNanos =
      (l.time.field f).toNanos + l.recorded net f life +
        if f = .commit then l.measured net t life else 0 := by
  induction life generalizing l with
  | nil => simp [after, recorded, measured]
  | cons o rest ih =>
    obtain ⟨w, d⟩ := o
    have step := perform_time net t d l w f h
    rw [after, ih _ (perform_sound net t d l w h), step, recorded, measured]
    split <;> omega

/-- What each operation does to the time of a link, in every world. -/
structure Timed (net : Fabric σ) (t : Transport) (l : Link) : Prop where
  /-- A view shows the time and changes nothing. -/
  viewed : ∀ measured w, ∃ v : Session.View,
    Session.Handle.act net .view ⟨l, measured⟩ w = (.done (.view v), ⟨l, measured⟩, w) ∧
      v.time = l.time
  commit_done : ∀ bytes w, (l.commit net bytes w).1 = .done () → ∃ d,
    (l.commit net bytes w).2.1 = { l with time := { l.time with commit := d } } ∧
      d.toNanos = l.time.commit.toNanos + (elapsed net t bytes w).toNanos
  /-- A commit that fails in the transport or is rejected adds nothing. -/
  commit_failed : ∀ bytes w e, (l.commit net bytes w).1 = .failed e →
    (l.commit net bytes w).2.1.time = l.time
  commit_panicked_iff : ∀ bytes w, (l.commit net bytes w).1 = .panicked .durationOverflow ↔
    l.state = .opened ∧ net.sendFault? t.socket bytes w.net = none ∧
      Duration.longest.toNanos < l.time.commit.toNanos + (elapsed net t bytes w).toNanos
  /-- A commit that panics leaves the link open and its time alone. -/
  commit_panicked : ∀ bytes w p, (l.commit net bytes w).1 = .panicked p →
    p = .durationOverflow ∧ (l.commit net bytes w).2.1 = l
  closed : ∀ w, (l.close net w).2.1.time = l.time
  /-- A record is complete, or stops at the first field that is too long. -/
  recorded : ∀ d,
    ((l.record d).1 = .done () ∧ (l.record d).2.time.IsSum l.time d) ∨
      ((l.record d).1 = .panicked .durationOverflow ∧
        ∃ f, TimeInfo.Stopped l.time d (l.record d).2.time f)

theorem Sound.timed {t : Transport} {l : Link} (h : Sound t l) (net : Fabric σ) :
    Timed net t l where
  viewed measured w := ⟨_, rfl, rfl⟩
  commit_done bytes w done := by
    have committed := h.commits net bytes w
    generalize l.commit net bytes w = answer at committed done ⊢
    cases committed with
    | @done d state sent sum => exact ⟨d, rfl, sum⟩
    | _ => cases done
  commit_failed bytes w e failed := by
    have committed := h.commits net bytes w
    generalize l.commit net bytes w = answer at committed failed ⊢
    cases committed with
    | rejected state => rfl
    | failed state unsent => rfl
    | _ => cases failed
  commit_panicked_iff bytes w := by
    have committed := h.commits net bytes w
    generalize l.commit net bytes w = answer at committed ⊢
    cases committed with
    | rejected state => exact ⟨fun p => (by cases p), fun p => absurd p.1 state⟩
    | failed state unsent =>
      refine ⟨fun p => (by cases p), fun p => ?_⟩
      rw [unsent] at p
      cases p.2.1
    | panicked state sent long => exact ⟨fun _ => ⟨state, sent, long⟩, fun _ => rfl⟩
    | @done d state sent sum =>
      refine ⟨fun p => (by cases p), fun p => ?_⟩
      have bound := d.toNanos_le_longest
      have long := p.2.2
      omega
  commit_panicked bytes w p panicked := by
    have committed := h.commits net bytes w
    generalize l.commit net bytes w = answer at committed panicked ⊢
    cases committed with
    | panicked state sent long => exact ⟨(Outcome.panicked.inj panicked).symm, rfl⟩
    | _ => cases panicked
  closed w := close_time net t l w h
  recorded d := record_cases d l

/-- The time of a link starts at zero. At every moment of its life each field is the exact sum
of what records applied to it and, for the commit time, of what the clock showed for the
commits that returned ok; no field ever decreases; and the next operation adds to the time, or
panics, exactly as stated, on an open link as on a closed one. -/
theorem time_is_sum_of_increments (net : Fabric σ) (l : Link) (made : Established net l) :
    l.time = {} ∧ ∃ t, l.transport = some t ∧ ∀ life : List (World σ × Deed),
      (∀ f, ((l.after net life).time.field f).toNanos =
        l.recorded net f life + if f = .commit then l.measured net t life else 0) ∧
      (∀ f more, ((l.after net life).time.field f).toNanos ≤
        ((l.after net (life ++ more)).time.field f).toNanos) ∧
      Timed net t (l.after net life) := by
  obtain ⟨kind, t, rfl⟩ := made.fresh
  have sound := fresh_sound kind t
  refine ⟨rfl, t, rfl, fun life => ⟨fun f => ?_, fun f more => ?_, ?_⟩⟩
  · have sum := after_time net t (fresh kind t) life f sound
    have start : ((fresh kind t).time.field f).toNanos = 0 := TimeInfo.field_zero f
    rw [sum, start, Nat.zero_add]
  · have sum := after_time net t _ more f (after_sound net t _ life sound)
    rw [after_append, sum]
    omega
  · exact (after_sound net t _ life sound).timed net

/-- A life on a wire with room for two bytes: a commit that fits, a record, a record whose
decoding time is too long to be added, an empty commit, one that does not fit, and a record
on the link that is closed then. -/
def strained : List (World Wire × Deed) :=
  let w := { net := { room := 2 } }
  [(w, .commit [1, 2]),
   (w, .record { encode := .ofNanos 3, decode := .ofNanos 1, commit := .ofNanos 7 }),
   (w, .record { encode := .ofNanos 10, decode := .longest, execution := .ofNanos 1 }),
   (w, .commit []),
   (w, .commit [1, 2, 3]),
   (w, .record { execution := .ofNanos 4 })]

theorem time_of_strained : Established Wire.fabric Wire.link ∧
    ((Wire.link.after Wire.fabric strained).time.field .encode).toNanos = 13 ∧
    ((Wire.link.after Wire.fabric strained).time.field .decode).toNanos = 1 ∧
    ((Wire.link.after Wire.fabric strained).time.field .commit).toNanos = 9 ∧
    ((Wire.link.after Wire.fabric strained).time.field .execution).toNanos = 4 := by
  obtain ⟨-, t, transport, sums⟩ :=
    time_is_sum_of_increments Wire.fabric Wire.link Wire.link_established
  obtain rfl := Option.some.inj transport
  have sum := (sums strained).1
  refine ⟨Wire.link_established, ?_, ?_, ?_, ?_⟩
  all_goals
    rw [sum]
    decide

end Tether.Link
