import Tether.Link.Connect
import Tether.Proofs.Link.Reply

/-!
# Bounded attempts on the daemon

Connecting to the daemon is a sequence of connects to one endpoint. It ends with the
first reply that is no failure, and otherwise after a limit that is at least one. Each
failed attempt but the last of the limit is announced by a warning and followed by one
wait. The number of the next attempt is kept in a word of sixty-four bits, which grows
only while it is below the limit, so it is the number of attempts made at every moment.
-/
namespace Tether

variable {σ : Type}

/-- How often a connect to the daemon is tried at most. -/
def Config.limit (c : Config) : Nat := max 1 c.attemptsMax.toNat

theorem Config.attempts_toNat (c : Config) : c.attempts.toNat = c.limit := by
  unfold attempts limit
  split
  next zero => rw [zero]; rfl
  next positive =>
    have : c.attemptsMax.toNat ≠ 0 := fun zero => positive (UInt64.toNat_inj.mp zero)
    omega

namespace Link

def redialled (net : Fabric σ) (endpoint : Endpoint) (config : Config) : Nat → σ → σ
  | 0, s => s
  | n + 1, s => redialled net endpoint config n (next net endpoint config s)

theorem redialled_add (net : Fabric σ) (endpoint : Endpoint) (config : Config) (n m : Nat)
    (s : σ) :
    redialled net endpoint config (n + m) s =
      redialled net endpoint config m (redialled net endpoint config n s) := by
  induction n generalizing s with
  | zero => rw [Nat.zero_add]; rfl
  | succ n ih => rw [Nat.succ_add]; exact ih _

/-- The reply to the connect after this many others. -/
def replyAfter (net : Fabric σ) (endpoint : Endpoint) (config : Config) (s : σ) (n : Nat) :
    Reply :=
  reply net endpoint config (redialled net endpoint config n s)

/-- The error of the attempt after this many others, if it fails. -/
def errorAfter (net : Fabric σ) (endpoint : Endpoint) (config : Config) (s : σ) (n : Nat) :
    Option Error :=
  (outcome .quiggeldy endpoint config (replyAfter net endpoint config s n)).error?

/-- The first attempts fail, with these errors in order. -/
def Fails (net : Fabric σ) (endpoint : Endpoint) (config : Config) (s : σ)
    (errors : List Error) : Prop :=
  ∀ n (h : n < errors.length), errorAfter net endpoint config s n = some errors[n]

theorem fails_nil (net : Fabric σ) (endpoint : Endpoint) (config : Config) (s : σ) :
    Fails net endpoint config s [] :=
  fun _ h => absurd h (Nat.not_lt_zero _)

/-- Failures are peeled off one at a time, with the network as the first one left it. -/
theorem fails_cons_iff (net : Fabric σ) (endpoint : Endpoint) (config : Config) (s : σ)
    (e : Error) (rest : List Error) :
    Fails net endpoint config s (e :: rest) ↔
      errorAfter net endpoint config s 0 = some e ∧
        Fails net endpoint config (next net endpoint config s) rest := by
  constructor
  · intro h
    exact ⟨h 0 (Nat.zero_lt_succ _), fun n bound => h (n + 1) (Nat.succ_lt_succ bound)⟩
  · rintro ⟨first, others⟩ n bound
    cases n with
    | zero => exact first
    | succ n => exact others n (Nat.lt_of_succ_lt_succ bound)

/-- Within a limit there is a last attempt: the first that does not fail, or the one at
the limit. All attempts before it fail. -/
theorem last_attempt (net : Fabric σ) (endpoint : Endpoint) (config : Config) (limit : Nat)
    (s : σ) (positive : 1 ≤ limit) :
    ∃ errors, errors.length < limit ∧ Fails net endpoint config s errors ∧
      (errorAfter net endpoint config s errors.length = none ∨ errors.length + 1 = limit) := by
  induction limit generalizing s with
  | zero => contradiction
  | succ limit ih =>
    cases first : errorAfter net endpoint config s 0 with
    | none => exact ⟨[], positive, fails_nil net endpoint config s, .inl first⟩
    | some e =>
      by_cases more : 1 ≤ limit
      · obtain ⟨errors, room, fails, ended⟩ := ih (next net endpoint config s) more
        refine ⟨e :: errors, Nat.succ_lt_succ room,
          (fails_cons_iff net endpoint config s e errors).mpr ⟨first, fails⟩, ?_⟩
        exact ended.imp_right (congrArg Nat.succ)
      · exact ⟨[], positive, fails_nil net endpoint config s, .inr (by simp; omega)⟩

/-- What a run of attempts has done, the first of which had a given number. Some of them
failed, and after some of the failures another attempt was announced. -/
structure Tried (net : Fabric σ) (endpoint : Endpoint) (config : Config) (first attempts : Nat)
    (errors announced : List Error) (w after : World σ) : Prop where
  asked : after.net = redialled net endpoint config attempts w.net
  dials : after.journal.dials =
    w.journal.dials ++ List.replicate attempts (.quiggeldy, endpoint)
  attempts : after.journal.total (.attempts .quiggeldy) =
    w.journal.total (.attempts .quiggeldy) + attempts
  errors : ∀ c, after.journal.total (.errors .quiggeldy c) =
    w.journal.total (.errors .quiggeldy c) + errors.countP fun e => e.category = c
  waits : after.journal.waits =
    w.journal.waits ++ List.replicate announced.length config.attemptWait
  warnings : after.journal.warnings = w.journal.warnings ++
    announced.mapIdx fun n e => .retrying (first + n) config.limit endpoint e

namespace Tried

variable {net : Fabric σ} {endpoint : Endpoint} {config : Config} {w middle after : World σ}

theorem refl (net : Fabric σ) (endpoint : Endpoint) (config : Config) (first : Nat)
    (w : World σ) : Tried net endpoint config first 0 [] [] w w :=
  ⟨rfl, (List.append_nil _).symm, rfl, fun _ => rfl, (List.append_nil _).symm,
    (List.append_nil _).symm⟩

/-- Numbers go on where announcements stopped. -/
theorem trans {first attempts more : Nat} {errors announced others later : List Error}
    (h : Tried net endpoint config first attempts errors announced w middle)
    (h' : Tried net endpoint config (first + announced.length) more others later middle after) :
    Tried net endpoint config first (attempts + more) (errors ++ others) (announced ++ later)
      w after := by
  refine ⟨?_, ?_, ?_, fun c => ?_, ?_, ?_⟩
  · rw [h'.asked, h.asked, redialled_add]
  · rw [h'.dials, h.dials, List.append_assoc, List.replicate_append_replicate]
  · rw [h'.attempts, h.attempts, Nat.add_assoc]
  · rw [h'.errors, h.errors, List.countP_append, Nat.add_assoc]
  · rw [h'.waits, h.waits, List.append_assoc, List.length_append,
      List.replicate_append_replicate]
  · have shifted : ∀ n, first + announced.length + n = first + (n + announced.length) := by omega
    rw [h'.warnings, h.warnings, List.append_assoc, List.mapIdx_append]
    simp only [shifted]

end Tried

/-- One attempt, whatever the reply. -/
theorem dialled_tried (net : Fabric σ) (endpoint : Endpoint) (config : Config) (first : Nat)
    (w : World σ) :
    Tried net endpoint config first 1 (errorAfter net endpoint config w.net 0).toList [] w
      (dialled net .quiggeldy endpoint config w) where
  asked := rfl
  dials := trace_dials _ _ _ _
  attempts := trace_attempts _ _ _ _
  errors c := trace_errors _ _ _ _ c
  waits := (trace_waits _ _ _ _).trans (List.append_nil _).symm
  warnings := (trace_warnings _ _ _ _).trans (List.append_nil _).symm

/-- The announcement of another attempt after a failure. -/
theorem prepareRetry_tried (net : Fabric σ) (endpoint : Endpoint) (config : Config)
    (number : Nat) (e : Error) (w : World σ) :
    Tried net endpoint config number 0 [] [e] w (prepareRetry config endpoint number e w) where
  asked := rfl
  dials := by simp [prepareRetry, World.pause, World.notify, Journal.dials, Journal.seen_cons]
  attempts := by simp [prepareRetry]
  errors c := by simp [prepareRetry]
  waits := by simp [prepareRetry, World.pause, World.notify, Journal.waits, Journal.seen_cons]
  warnings := by
    simp [prepareRetry, World.pause, World.notify, Journal.warnings, Journal.seen_cons,
      Config.attempts_toNat]

/-- An attempt fails by a fault of the system or by a time limit that was set. -/
theorem errorAfter_cases (net : Fabric σ) (endpoint : Endpoint) (config : Config) (s : σ)
    (n : Nat) (e : Error) (h : errorAfter net endpoint config s n = some e) :
    (∃ fault, e = .io fault) ∨
      ∃ limit, config.connectTimeout = some limit ∧ e = .connectTimeout endpoint.text limit := by
  unfold errorAfter at h
  cases answer : replyAfter net endpoint config s n with
  | connected socket => rw [answer] at h; cases h
  | failed fault =>
    rw [answer] at h
    exact .inl ⟨fault, (Option.some.inj h).symm⟩
  | silent =>
    rw [answer] at h
    cases timeout : config.connectTimeout with
    | none => simp [outcome, timeout, Outcome.error?] at h
    | some limit =>
      simp only [outcome, timeout, Outcome.error?, Option.some.injEq] at h
      exact .inr ⟨limit, rfl, h.symm⟩

/-- An attempt that does not fail ends the loop with its own outcome. -/
theorem attempt_of_no_error (net : Fabric σ) (endpoint : Endpoint) (config : Config)
    (number : UInt64) (w : World σ) (h : errorAfter net endpoint config w.net 0 = none) :
    attempt net config endpoint number w =
      (outcome .quiggeldy endpoint config (replyAfter net endpoint config w.net 0),
        dialled net .quiggeldy endpoint config w) := by
  have answer := connect_eq_of_reply net .quiggeldy endpoint config w
  rw [attempt]
  split
  next e after failed =>
    have error : (outcome .quiggeldy endpoint config (reply net endpoint config w.net)).error? =
        some e := by
      rw [failed] at answer
      rw [← (Prod.mk.inj answer).1]
      rfl
    exact absurd (h.symm.trans error) (by simp)
  next => exact answer

/-- A failed attempt is followed by another one exactly if its number is below the limit. -/
theorem attempt_of_error (net : Fabric σ) (endpoint : Endpoint) (config : Config)
    (number : UInt64) (w : World σ) (e : Error)
    (h : errorAfter net endpoint config w.net 0 = some e) :
    attempt net config endpoint number w =
      if number < config.attempts then
        attempt net config endpoint (number + 1)
          (prepareRetry config endpoint number.toNat e (dialled net .quiggeldy endpoint config w))
      else
        (.failed (exhausted config endpoint e), dialled net .quiggeldy endpoint config w) := by
  have failed : outcome .quiggeldy endpoint config (reply net endpoint config w.net) =
      .failed e := by
    unfold errorAfter Outcome.error? at h
    split at h
    next e' answer => rw [← Option.some.inj h]; exact answer
    next => cases h
  have transient : e.isTransient = true := by
    rcases errorAfter_cases net endpoint config w.net 0 e h with ⟨fault, rfl⟩ | ⟨limit, -, rfl⟩
    · rfl
    · rfl
  rw [attempt, connect_eq_of_reply, failed]
  dsimp only
  rw [if_pos transient]

/-- While attempts fail and the limit is not reached, the loop goes on with a number that
has grown by one for each of them. -/
theorem attempt_retries (net : Fabric σ) (endpoint : Endpoint) (config : Config)
    (errors : List Error) (number : UInt64) (w : World σ)
    (fails : Fails net endpoint config w.net errors)
    (room : number.toNat + errors.length ≤ config.limit) :
    ∃ (later : UInt64) (after : World σ), later.toNat = number.toNat + errors.length ∧
      attempt net config endpoint number w = attempt net config endpoint later after ∧
      Tried net endpoint config number.toNat errors.length errors errors w after := by
  induction errors generalizing number w with
  | nil => exact ⟨number, w, rfl, rfl, .refl net endpoint config number.toNat w⟩
  | cons e rest ih =>
    obtain ⟨first, others⟩ := (fails_cons_iff net endpoint config w.net e rest).mp fails
    rw [List.length_cons] at room
    have below : number < config.attempts := by
      rw [UInt64.lt_iff_toNat_lt, Config.attempts_toNat]
      omega
    have grown := toNat_succ_of_lt below
    let retried := prepareRetry config endpoint number.toNat e
      (dialled net .quiggeldy endpoint config w)
    have step : Tried net endpoint config number.toNat 1 [e] [e] w retried := by
      have dialled := dialled_tried net endpoint config number.toNat w
      rw [first] at dialled
      exact dialled.trans (prepareRetry_tried net endpoint config number.toNat e _)
    obtain ⟨later, after, counted, same, tried⟩ :=
      ih (number + 1) retried others (by omega)
    refine ⟨later, after, by rw [counted, List.length_cons]; omega, ?_, ?_⟩
    · rw [attempt_of_error net endpoint config number w e first, if_pos below]
      exact same
    · rw [grown] at tried
      have whole := step.trans tried
      rwa [Nat.add_comm 1] at whole

/-- The attempt that comes after some failures, with its number. -/
theorem connectDaemonTo_retries (net : Fabric σ) (endpoint : Endpoint) (config : Config)
    (w : World σ) (errors : List Error) (room : errors.length < config.limit)
    (fails : Fails net endpoint config w.net errors) :
    ∃ (number : UInt64) (after : World σ), number.toNat = errors.length + 1 ∧
      connectDaemonTo net config endpoint w = attempt net config endpoint number after ∧
      Tried net endpoint config 1 errors.length errors errors w after := by
  have one : (1 : UInt64).toNat = 1 := rfl
  obtain ⟨number, after, counted, same, tried⟩ :=
    attempt_retries net endpoint config errors 1 w fails (by omega)
  exact ⟨number, after, by omega, same, tried⟩

/-- The attempt after some failures finds the network as they left it. -/
theorem Tried.errorAfter {net : Fabric σ} {endpoint : Endpoint} {config : Config}
    {first attempts : Nat} {errors announced : List Error} {w after : World σ}
    (h : Tried net endpoint config first attempts errors announced w after) :
    Link.errorAfter net endpoint config after.net 0 =
      Link.errorAfter net endpoint config w.net attempts := by
  rw [h.asked]
  rfl

/-- The last attempt decides: its own outcome comes out if it does not fail, and the end of
all attempts otherwise. -/
theorem connectDaemonTo_last (net : Fabric σ) (endpoint : Endpoint) (config : Config)
    (w : World σ) (errors : List Error) (room : errors.length < config.limit)
    (fails : Fails net endpoint config w.net errors)
    (ended : errorAfter net endpoint config w.net errors.length = none ∨
      errors.length + 1 = config.limit) :
    (connectDaemonTo net config endpoint w).1 =
        (match errorAfter net endpoint config w.net errors.length with
          | none =>
            outcome .quiggeldy endpoint config (replyAfter net endpoint config w.net errors.length)
          | some last => .failed (exhausted config endpoint last)) ∧
      Tried net endpoint config 1 (errors.length + 1)
        (errors ++ (errorAfter net endpoint config w.net errors.length).toList) errors w
        (connectDaemonTo net config endpoint w).2 := by
  obtain ⟨number, after, counted, same, tried⟩ :=
    connectDaemonTo_retries net endpoint config w errors room fails
  have last := tried.trans (dialled_tried net endpoint config (1 + errors.length) after)
  rw [tried.errorAfter, List.append_nil] at last
  have found := tried.errorAfter
  cases answer : errorAfter net endpoint config w.net errors.length with
  | none =>
    rw [answer] at found last
    rw [same, attempt_of_no_error net endpoint config number after found]
    exact ⟨by rw [tried.asked]; rfl, last⟩
  | some e =>
    have reached : ¬number < config.attempts := by
      rw [answer] at ended
      rw [UInt64.lt_iff_toNat_lt, Config.attempts_toNat]
      simp only [reduceCtorEq, false_or] at ended
      omega
    rw [answer] at found last
    rw [same, attempt_of_error net endpoint config number after e found, if_neg reached]
    exact ⟨rfl, last⟩

/-- An attempt that does not fail connects, or is never answered and has no time limit. -/
theorem no_error_cases (net : Fabric σ) (endpoint : Endpoint) (config : Config) (s : σ)
    (n : Nat) (h : errorAfter net endpoint config s n = none) :
    (∃ socket, replyAfter net endpoint config s n = .connected socket) ∨
      replyAfter net endpoint config s n = .silent ∧ config.connectTimeout = none := by
  unfold errorAfter at h
  cases answer : replyAfter net endpoint config s n with
  | connected socket => exact .inl ⟨socket, rfl⟩
  | failed fault => rw [answer] at h; cases h
  | silent =>
    cases timeout : config.connectTimeout with
    | none => exact .inr ⟨rfl, rfl⟩
    | some limit => simp [answer, outcome, timeout, Outcome.error?] at h

/-- What connecting to the daemon does, by the replies to its attempts in order. The
attempts before the last one have failed with some errors. -/
structure Bounded (net : Fabric σ) (endpoint : Endpoint) (config : Config) (w : World σ)
    (r : Outcome Link × World σ) : Prop where
  limit : config.attempts.toNat = max 1 config.attemptsMax.toNat
  /-- The first attempt that succeeds is the last one. -/
  connected : ∀ errors socket, errors.length < config.limit →
    Fails net endpoint config w.net errors →
    replyAfter net endpoint config w.net errors.length = .connected socket →
    r.1 = .done (fresh .quiggeldy ⟨socket, endpoint⟩) ∧
      Tried net endpoint config 1 (errors.length + 1) errors errors w r.2
  /-- If none succeeds, the one at the limit is the last one, and its error is the source. -/
  exhausted : ∀ errors last, errors.length + 1 = config.limit →
    Fails net endpoint config w.net errors →
    errorAfter net endpoint config w.net errors.length = some last →
    r.1 = .failed (.attemptsExhausted endpoint.text config.attempts last) ∧
      Tried net endpoint config 1 (errors.length + 1) (errors ++ [last]) errors w r.2
  /-- Without a time limit an attempt may wait forever. -/
  stuck : ∀ errors, errors.length < config.limit → Fails net endpoint config w.net errors →
    replyAfter net endpoint config w.net errors.length = .silent →
    config.connectTimeout = none →
    r.1 = .pending ∧ Tried net endpoint config 1 (errors.length + 1) errors errors w r.2
  /-- One of these is always the case. -/
  decided : ∃ errors, errors.length < config.limit ∧ Fails net endpoint config w.net errors ∧
    ((∃ socket, replyAfter net endpoint config w.net errors.length = .connected socket) ∨
      (errors.length + 1 = config.limit ∧
        ∃ last, errorAfter net endpoint config w.net errors.length = some last) ∨
      (replyAfter net endpoint config w.net errors.length = .silent ∧
        config.connectTimeout = none))
  /-- No other error comes out, and its source is that of a single attempt. -/
  failure : ∀ e, r.1 = .failed e → ∃ last,
    e = .attemptsExhausted endpoint.text config.attempts last ∧
      ((∃ fault, last = .io fault) ∨
        ∃ limit, config.connectTimeout = some limit ∧ last = .connectTimeout endpoint.text limit)
  unharmed : ∀ p, r.1 ≠ .panicked p
  /-- The word that counts attempts holds their true number, so it has never wrapped. -/
  counter : ∀ errors, errors.length < config.limit → Fails net endpoint config w.net errors →
    ∃ (number : UInt64) (after : World σ), number.toNat = errors.length + 1 ∧
      r = attempt net config endpoint number after ∧
      Tried net endpoint config 1 errors.length errors errors w after

/-- Every sequence of replies has a first one that ends the attempts. -/
theorem replies_decided (net : Fabric σ) (endpoint : Endpoint) (config : Config) (s : σ) :
    ∃ errors, errors.length < config.limit ∧ Fails net endpoint config s errors ∧
      ((∃ socket, replyAfter net endpoint config s errors.length = .connected socket) ∨
        (errors.length + 1 = config.limit ∧
          ∃ last, errorAfter net endpoint config s errors.length = some last) ∨
        (replyAfter net endpoint config s errors.length = .silent ∧
          config.connectTimeout = none)) := by
  obtain ⟨errors, room, fails, ended⟩ :=
    last_attempt net endpoint config config.limit s (Nat.le_max_left _ _)
  refine ⟨errors, room, fails, ?_⟩
  cases answer : errorAfter net endpoint config s errors.length with
  | none =>
    rcases no_error_cases net endpoint config s errors.length answer with connected | silence
    · exact .inl connected
    · exact .inr (.inr silence)
  | some last =>
    rw [answer] at ended
    exact .inr (.inl ⟨ended.resolve_left (by simp), last, rfl⟩)

/-- In any case there is an attempt, there are at most as many as the limit, and what comes
out is a client for the endpoint, the end of all attempts, or nothing ever. -/
theorem connectDaemonTo_within_limit (net : Fabric σ) (endpoint : Endpoint) (config : Config)
    (w : World σ) :
    (∃ attempts errors announced, 1 ≤ attempts ∧ attempts ≤ config.limit ∧
      Tried net endpoint config 1 attempts errors announced w
        (connectDaemonTo net config endpoint w).2) ∧
    ((∃ socket, (connectDaemonTo net config endpoint w).1 =
        .done (fresh .quiggeldy ⟨socket, endpoint⟩)) ∨
      (∃ n last, errorAfter net endpoint config w.net n = some last ∧
        (connectDaemonTo net config endpoint w).1 = .failed (exhausted config endpoint last)) ∨
      (connectDaemonTo net config endpoint w).1 = .pending) := by
  obtain ⟨errors, room, fails, ended⟩ :=
    last_attempt net endpoint config config.limit w.net (Nat.le_max_left _ _)
  obtain ⟨result, tried⟩ := connectDaemonTo_last net endpoint config w errors room fails ended
  refine ⟨⟨_, _, _, Nat.le_add_left 1 _, room, tried⟩, ?_⟩
  cases answer : errorAfter net endpoint config w.net errors.length with
  | some last =>
    rw [answer] at result
    exact .inr (.inl ⟨_, last, answer, result⟩)
  | none =>
    rw [answer] at result
    rcases no_error_cases net endpoint config w.net errors.length answer with
      ⟨socket, connected⟩ | ⟨silent, timeout⟩
    · rw [connected] at result
      exact .inl ⟨socket, result⟩
    · rw [silent] at result
      simp only [outcome, timeout] at result
      exact .inr (.inr result)

/-- The number of attempts is known from the replies alone. -/
theorem connectDaemonTo_bounded (net : Fabric σ) (endpoint : Endpoint) (config : Config)
    (w : World σ) : Bounded net endpoint config w (connectDaemonTo net config endpoint w) := by
  have last := connectDaemonTo_last net endpoint config w
  have results := (connectDaemonTo_within_limit net endpoint config w).2
  refine
    { limit := config.attempts_toNat
      connected := fun errors socket room fails answer => ?_
      exhausted := fun errors e room fails answer => ?_
      stuck := fun errors room fails answer timeout => ?_
      decided := replies_decided net endpoint config w.net
      failure := fun e failed => ?_
      unharmed := fun p panicked => ?_
      counter := connectDaemonTo_retries net endpoint config w }
  · have unfailed : errorAfter net endpoint config w.net errors.length = none := by
      rw [errorAfter, answer]
      rfl
    have ended := last errors room fails (.inl unfailed)
    rw [unfailed, answer, Option.toList_none, List.append_nil] at ended
    exact ended
  · have ended := last errors (by omega) fails (.inr room)
    rw [answer] at ended
    exact ended
  · have unfailed : errorAfter net endpoint config w.net errors.length = none := by
      rw [errorAfter, answer, outcome, timeout]
      rfl
    have ended := last errors room fails (.inl unfailed)
    rw [unfailed, answer, Option.toList_none, List.append_nil] at ended
    simp only [outcome, timeout] at ended
    exact ended
  · rcases results with ⟨socket, done⟩ | ⟨n, source, found, given⟩ | never
    · rw [done] at failed
      cases failed
    · rw [given] at failed
      exact ⟨source, (Outcome.failed.inj failed).symm,
        errorAfter_cases net endpoint config w.net n source found⟩
    · rw [never] at failed
      cases failed
  · rcases results with ⟨socket, done⟩ | ⟨n, source, found, given⟩ | never
    · rw [done] at panicked
      cases panicked
    · rw [given] at panicked
      cases panicked
    · rw [never] at panicked
      cases panicked

/-- A network that gives replies in order; nothing else is asked of it by a connect. -/
def playing (replies : Nat → Reply) : Fabric Nat where
  connect _ _ n := (replies n, n + 1)
  write _ _ n := (.ok (), n)
  flush _ n := (.ok (), n)
  shutdown _ n := (.ok (), n)
  release _ n := n
  now _ := .zero

theorem playing_redialled (replies : Nat → Reply) (endpoint : Endpoint) (config : Config)
    (n start : Nat) : redialled (playing replies) endpoint config n start = start + n := by
  induction n generalizing start with
  | zero => rfl
  | succ n ih => exact (ih (start + 1)).trans (by omega)

/-- So any sequence of replies is that of some network. -/
theorem playing_replyAfter (replies : Nat → Reply) (endpoint : Endpoint) (config : Config)
    (start n : Nat) :
    replyAfter (playing replies) endpoint config start n = replies (start + n) := by
  rw [replyAfter, playing_redialled]
  rfl

/-- Over every network, connecting to the daemon makes as many attempts as it takes, and
at most the limit; and the replies to its attempts can be any sequence. -/
theorem daemon_attempts_bounded :
    (∀ {σ : Type} (net : Fabric σ) (endpoint : Endpoint) (config : Config) (w : World σ),
      Bounded net endpoint config w (connectDaemonTo net config endpoint w)) ∧
    ∀ (replies : Nat → Reply) (endpoint : Endpoint) (config : Config) (n : Nat),
      replyAfter (playing replies) endpoint config 0 n = replies n :=
  ⟨fun net endpoint config w => connectDaemonTo_bounded net endpoint config w,
    fun replies endpoint config n => by rw [playing_replyAfter, Nat.zero_add]⟩

/-- A daemon that answers the third attempt, and one that is tried once at least. -/
example :
    let late := playing fun
      | 2 => .connected 7
      | _ => .failed .refused
    let absent := playing fun _ => .failed .refused
    let r := connectDaemonTo late { attemptsMax := 3 } ⟨"host", 1⟩ { net := 0 }
    r.1 = .done (fresh .quiggeldy ⟨7, ⟨"host", 1⟩⟩) ∧
      r.2.journal.waits = [defaultWait, defaultWait] ∧
      (connectDaemonTo absent { attemptsMax := 0 } ⟨"host", 1⟩ { net := 0 }).1 =
        .failed (.attemptsExhausted "host:1" 1 (.io .refused)) := by
  cbv

end Link
end Tether
