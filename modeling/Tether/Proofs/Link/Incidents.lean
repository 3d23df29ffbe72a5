import Tether.Proofs.Link.Events
import Tether.Proofs.Link.Retry

/-!
# What goes wrong, and what is counted of it

An incident is a connect attempt that fails, one that is never answered, or a commit that
fails in the transport. Incidents are told from what the network replies, never from what
was counted or logged. Every connect and every deed accounts for its incidents: attempts
that opened nothing are those among them, each error is counted once and under its
category, and a connection that is opened is sampled once. Giving up on further attempts,
closing and dropping are no incidents, and count none.
-/
namespace Tether

variable {σ α : Type}

inductive Incident where
  /-- A connect attempt failed. -/
  | refused (kind : Kind) (error : Error)
  /-- A connect attempt waits forever. -/
  | unanswered (kind : Kind)
  /-- A commit on a link failed in the transport. -/
  | broken (kind : Kind) (error : Error)
  deriving DecidableEq, Repr

namespace Incident

def isRefused (k : Kind) : Incident → Bool
  | refused kind _ => kind = k
  | _ => false

def isUnanswered (k : Kind) : Incident → Bool
  | unanswered kind => kind = k
  | _ => false

/-- Attempts fail in the system or by a time limit, and commits in the system. -/
def Ordinary : Incident → Prop
  | refused _ e => e.category = .io ∨ e.category = .timeout
  | unanswered _ => True
  | broken _ e => e.category = .io

def isRefusedFor (k : Kind) (r : Category) : Incident → Bool
  | refused kind e => kind = k ∧ e.category = r
  | _ => false

def isBrokenFor (k : Kind) (r : Category) : Incident → Bool
  | broken kind e => kind = k ∧ e.category = r
  | _ => false

theorem Ordinary.isRefusedFor_eq_false {i : Incident} (h : i.Ordinary) (k : Kind) {r : Category}
    (faultless : r ≠ .io) (prompt : r ≠ .timeout) : i.isRefusedFor k r = false := by
  cases i with
  | refused kind e =>
    rcases h with io | timeout
    · simp [isRefusedFor, io, faultless.symm]
    · simp [isRefusedFor, timeout, prompt.symm]
  | _ => rfl

theorem Ordinary.isBrokenFor_eq_false {i : Incident} (h : i.Ordinary) (k : Kind) {r : Category}
    (faultless : r ≠ .io) : i.isBrokenFor k r = false := by
  cases i with
  | broken kind e =>
    have io : e.category = .io := h
    simp [isBrokenFor, io, faultless.symm]
  | _ => rfl

end Incident

/-- Events that say nothing about attempts, opened connections, or errors. -/
def Event.beside : Event → Bool
  | .count (.attempts _) | .count (.opened _) | .count (.connectDuration _)
  | .count (.errors _ _) => false
  | _ => true

theorem Journal.total_cons_beside (e : Event) (j : Journal) (m : Metric) (beside : e.beside = true)
    (told : (Event.count m).beside = false) : Journal.total (e :: j) m = j.total m := by
  have other : e ≠ .count m := by
    rintro rfl
    rw [told] at beside
    cases beside
  rw [total_cons, if_neg other, Nat.add_zero]

/-- Between two journals exactly these incidents were counted, each once. -/
structure Tallied (j j' : Journal) (is : List Incident) : Prop where
  ordinary : ∀ i ∈ is, i.Ordinary
  attempts : ∀ k, j'.total (.attempts k) + j.total (.opened k) =
    j.total (.attempts k) + j'.total (.opened k) +
      (is.countP (Incident.isRefused k) + is.countP (Incident.isUnanswered k))
  samples : ∀ k, j'.total (.connectDuration k) + j.total (.opened k) =
    j.total (.connectDuration k) + j'.total (.opened k)
  errors : ∀ k r, j'.total (.errors k r) = j.total (.errors k r) +
    (is.countP (Incident.isRefusedFor k r) + is.countP (Incident.isBrokenFor k r))

namespace Tallied

variable {j j' j'' : Journal} {is is' : List Incident}

theorem refl (j : Journal) : Tallied j j [] :=
  ⟨fun _ found => absurd found List.not_mem_nil, fun _ => rfl, fun _ => rfl, fun _ _ => rfl⟩

/-- Incidents add up along a journal, which is what every longer tally is made of. -/
theorem trans (h : Tallied j j' is) (h' : Tallied j' j'' is') :
    Tallied j j'' (is ++ is') := by
  constructor
  · intro i found
    rcases List.mem_append.mp found with early | late
    · exact h.ordinary i early
    · exact h'.ordinary i late
  · intro k
    have first := h.attempts k
    have second := h'.attempts k
    rw [List.countP_append, List.countP_append]
    omega
  · intro k
    have first := h.samples k
    have second := h'.samples k
    omega
  · intro k r
    have first := h.errors k r
    have second := h'.errors k r
    rw [List.countP_append, List.countP_append]
    omega

theorem trans_nil (h : Tallied j j' is) (h' : Tallied j' j'' []) : Tallied j j'' is := by
  have whole := h.trans h'
  rwa [List.append_nil] at whole

/-- An event that says nothing may follow. -/
theorem cons (h : Tallied j j' is) {e : Event} (beside : e.beside = true) :
    Tallied j (e :: j') is := by
  have same := fun m => Journal.total_cons_beside e j' m beside
  constructor
  · exact h.ordinary
  · intro k
    rw [same _ rfl, same _ rfl]
    exact h.attempts k
  · intro k
    rw [same _ rfl, same _ rfl]
    exact h.samples k
  · intro k r
    rw [same _ rfl]
    exact h.errors k r

/-- An event that says nothing may come first. -/
theorem after {e : Event} (h : Tallied (e :: j) j' is) (beside : e.beside = true) :
    Tallied j j' is :=
  ((refl j).cons beside).trans h

end Tallied

/-- What is wrong with a reply to a connect, if it is no connection. -/
def Reply.incident? (kind : Kind) (endpoint : Endpoint) (config : Config) :
    Reply → Option Incident
  | connected _ => none
  | failed fault => some (.refused kind (.io fault))
  | silent =>
    match config.connectTimeout with
    | some limit => some (.refused kind (.connectTimeout endpoint.text limit))
    | none => some (.unanswered kind)

namespace Link

/-- The incidents of connects to one endpoint that are made until one does not fail, and
no more often than this. -/
def mishaps (net : Fabric σ) (kind : Kind) (endpoint : Endpoint) (config : Config) :
    Nat → σ → List Incident
  | 0, _ => []
  | n + 1, s =>
    match (reply net endpoint config s).incident? kind endpoint config with
    | none => []
    | some (.refused k e) =>
      .refused k e :: mishaps net kind endpoint config n (next net endpoint config s)
    | some other => [other]

theorem mishaps_one (net : Fabric σ) (kind : Kind) (endpoint : Endpoint) (config : Config)
    (s : σ) :
    mishaps net kind endpoint config 1 s =
      ((reply net endpoint config s).incident? kind endpoint config).toList := by
  unfold mishaps
  split
  next answer => rw [answer]; rfl
  next answer => rw [answer]; rfl
  next answer => rw [answer]; rfl

theorem incident?_of_error (kind : Kind) (endpoint : Endpoint) (config : Config) (r : Reply)
    (e : Error) (h : (outcome kind endpoint config r).error? = some e) :
    r.incident? kind endpoint config = some (.refused kind e) := by
  cases r with
  | connected socket => cases h
  | failed fault => rw [← Option.some.inj h]; rfl
  | silent =>
    cases limit : config.connectTimeout with
    | none => simp [outcome, limit, Outcome.error?] at h
    | some d =>
      simp only [outcome, limit, Outcome.error?, Option.some.injEq] at h
      simp only [Reply.incident?, limit, h]

theorem incident?_of_no_error (kind : Kind) (endpoint : Endpoint) (config : Config) (r : Reply)
    (h : (outcome kind endpoint config r).error? = none) (k : Kind) (e : Error) :
    r.incident? kind endpoint config ≠ some (.refused k e) := by
  cases r with
  | connected socket => simp [Reply.incident?]
  | failed fault => cases h
  | silent =>
    cases limit : config.connectTimeout with
    | none => simp [Reply.incident?, limit]
    | some d => simp [outcome, limit, Outcome.error?] at h

theorem trace_done_tallied (kind : Kind) (endpoint : Endpoint) (l : Link) (j : Journal) :
    Tallied j (trace kind endpoint (.done l) ++ j) [] := by
  constructor
  · exact (Tallied.refl j).ordinary
  · intro k
    by_cases own : kind = k
    · simp [trace, own]
      omega
    · simp [trace, own]
  · intro k
    by_cases own : kind = k
    · simp [trace, own]
      omega
    · simp [trace, own]
  · intro k r
    simp [trace]

theorem trace_failed_tallied (kind : Kind) (endpoint : Endpoint) (e : Error) (j : Journal)
    (ordinary : (Incident.refused kind e).Ordinary) :
    Tallied j (trace kind endpoint (.failed e) ++ j) [.refused kind e] := by
  constructor
  · simpa using ordinary
  · intro k
    by_cases own : kind = k
    · simp [trace, own, Incident.isRefused, Incident.isUnanswered]
      omega
    · simp [trace, own, Incident.isRefused, Incident.isUnanswered]
  · intro k
    simp [trace]
  · intro k r
    simp [trace, Incident.isRefusedFor, Incident.isBrokenFor, List.countP_cons]

theorem trace_pending_tallied (kind : Kind) (endpoint : Endpoint) (j : Journal) :
    Tallied j (trace kind endpoint .pending ++ j) [.unanswered kind] := by
  constructor
  · simp [Incident.Ordinary]
  · intro k
    by_cases own : kind = k
    · simp [trace, own, Incident.isRefused, Incident.isUnanswered]
      omega
    · simp [trace, own, Incident.isRefused, Incident.isUnanswered]
  · intro k
    simp [trace]
  · intro k r
    simp [trace, Incident.isRefusedFor, Incident.isBrokenFor]

/-- Every attempt is counted, and besides that an opened connection with its sample, an
error, or nothing. -/
theorem trace_tallied (kind : Kind) (endpoint : Endpoint) (config : Config) (r : Reply)
    (j : Journal) :
    Tallied j (trace kind endpoint (outcome kind endpoint config r) ++ j)
      (r.incident? kind endpoint config).toList := by
  cases r with
  | connected socket => exact trace_done_tallied kind endpoint _ j
  | failed fault => exact trace_failed_tallied kind endpoint _ j (.inl rfl)
  | silent =>
    cases limit : config.connectTimeout with
    | none =>
      simp only [outcome, Reply.incident?, limit]
      exact trace_pending_tallied kind endpoint j
    | some d =>
      simp only [outcome, Reply.incident?, limit]
      exact trace_failed_tallied kind endpoint _ j (.inr rfl)

/-- One connect is at most one incident, known from the network's reply. -/
theorem connect_tallied (net : Fabric σ) (kind : Kind) (endpoint : Endpoint) (config : Config)
    (w : World σ) :
    Tallied w.journal (connect net kind endpoint config w).2.journal
      (mishaps net kind endpoint config 1 w.net) := by
  rw [connect_eq_of_reply, mishaps_one]
  exact trace_tallied kind endpoint config _ w.journal

/-- An attempt that does not fail is the last one, however many more there might be. -/
theorem attempt_tallied_of_no_error (net : Fabric σ) (config : Config) (endpoint : Endpoint)
    (n : Nat) (number : UInt64) (w : World σ)
    (h : errorAfter net endpoint config w.net 0 = none) :
    Tallied w.journal (attempt net config endpoint number w).2.journal
      (mishaps net .quiggeldy endpoint config (n + 1) w.net) := by
  have last : mishaps net .quiggeldy endpoint config (n + 1) w.net =
      ((reply net endpoint config w.net).incident? .quiggeldy endpoint config).toList := by
    unfold mishaps
    split
    next answer => rw [answer]; rfl
    next k e answer => exact absurd answer (incident?_of_no_error _ _ _ _ h k e)
    next answer => rw [answer]; rfl
  rw [attempt_of_no_error net endpoint config number w h, last]
  exact trace_tallied .quiggeldy endpoint config _ w.journal

/-- The announcement of another attempt counts nothing, so the incidents of all attempts
are those of each. -/
theorem attempt_tallied (net : Fabric σ) (config : Config) (endpoint : Endpoint) (n : Nat)
    (number : UInt64) (w : World σ) (room : number.toNat + n = config.limit) :
    Tallied w.journal (attempt net config endpoint number w).2.journal
      (mishaps net .quiggeldy endpoint config (n + 1) w.net) := by
  -- On the attempts that remain after this one; a failure uses one of them up.
  induction n generalizing number w with
  | zero =>
    cases first : errorAfter net endpoint config w.net 0 with
    | none => exact attempt_tallied_of_no_error net config endpoint 0 number w first
    | some e =>
      have made := trace_tallied .quiggeldy endpoint config (reply net endpoint config w.net)
        w.journal
      have reached : ¬number < config.attempts := by
        rw [UInt64.lt_iff_toNat_lt, Config.attempts_toNat]
        omega
      rw [attempt_of_error net endpoint config number w e first, if_neg reached, mishaps_one]
      exact made
  | succ n ih =>
    cases first : errorAfter net endpoint config w.net 0 with
    | none => exact attempt_tallied_of_no_error net config endpoint (n + 1) number w first
    | some e =>
      have refused : (reply net endpoint config w.net).incident? .quiggeldy endpoint config =
          some (.refused .quiggeldy e) := incident?_of_error .quiggeldy endpoint config _ e first
      have made := trace_tallied .quiggeldy endpoint config (reply net endpoint config w.net)
        w.journal
      have below : number < config.attempts := by
        rw [UInt64.lt_iff_toNat_lt, Config.attempts_toNat]
        omega
      have grown := toNat_succ_of_lt below
      have others := ih (number + 1) (prepareRetry config endpoint number.toNat e
        (dialled net .quiggeldy endpoint config w)) (by omega)
      rw [refused] at made
      rw [attempt_of_error net endpoint config number w e first, if_pos below, mishaps, refused]
      exact made.trans ((others.after rfl).after rfl)

/-- The incidents of a deed: a commit that the transport fails. -/
def Deed.incidents (net : Fabric σ) (l : Link) (w : World σ) : Deed → List Incident
  | .commit bytes => (l.commitError? net bytes w).toList.map (.broken l.kind)
  | _ => []

theorem breakdown_tallied (l : Link) (e : Error) (j : Journal)
    (ordinary : (Incident.broken l.kind e).Ordinary) :
    Tallied j (l.breakdown e ++ j) [.broken l.kind e] := by
  constructor
  · simpa using ordinary
  · intro k
    simp [breakdown, Incident.isRefused, Incident.isUnanswered]
  · intro k
    simp [breakdown]
  · intro k r
    simp [breakdown, Incident.isRefusedFor, Incident.isBrokenFor, List.countP_cons]

/-- Of all deeds only a commit that the transport fails is an incident. -/
theorem perform_tallied (net : Fabric σ) (d : Deed) (l : Link) (w : World σ) :
    Tallied w.journal (l.perform net d w).2.2.journal (d.incidents net l w) := by
  cases d with
  | commit bytes =>
    rw [perform, commit_journal, Deed.incidents]
    cases failed : l.commitError? net bytes w with
    | none => exact .refl w.journal
    | some e =>
      obtain ⟨fault, rfl⟩ := commitError?_io net bytes l w e failed
      exact breakdown_tallied l _ w.journal rfl
  | close =>
    rw [perform, close_journal]
    split
    · exact ((Tallied.refl w.journal).cons rfl).cons rfl
    · exact .refl w.journal
  | record time => exact .refl w.journal

theorem release_tallied (net : Fabric σ) (l : Link) (w : World σ) :
    Tallied w.journal (l.release net w).journal [] := by
  rw [release_journal]
  split
  · exact .refl w.journal
  · exact ((Tallied.refl w.journal).cons rfl).cons rfl

theorem releaseAll_tallied (net : Fabric σ) (ls : List Link) (w : World σ) :
    Tallied w.journal (releaseAll net ls w).journal [] := by
  induction ls generalizing w with
  | nil => exact .refl w.journal
  | cons l rest ih => exact (release_tallied net l w).trans (ih (l.release net w))

end Link

end Tether
