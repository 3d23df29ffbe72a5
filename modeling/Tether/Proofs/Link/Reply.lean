import Tether.Proofs.Link.Lifecycle

/-!
# What a connect does with a reply

A connect asks the network once. The reply decides the outcome, and the outcome decides
every event that the connect leaves behind. What a journal says about waits, repeated
attempts and dialled endpoints is read off it in the order in which it happened.
-/
namespace Tether

variable {σ α : Type}

namespace Journal

/-- What some events say, in the order in which they happened. -/
def seen (read : Event → Option α) (j : Journal) : List α := j.reverse.filterMap read

/-- Journals have their latest event first, and what they say is read in order. -/
theorem seen_append (read : Event → Option α) (later j : Journal) :
    seen read (later ++ j) = seen read j ++ seen read later := by
  simp [seen, List.filterMap_append]

theorem seen_cons (read : Event → Option α) (e : Event) (j : Journal) :
    seen read (e :: j) = seen read j ++ (read e).toList := by
  rw [seen, List.reverse_cons, List.filterMap_append]
  cases said : read e <;> simp [seen, said]

def waits (j : Journal) : List Duration :=
  j.seen fun
    | .wait d => some d
    | _ => none

def warnings (j : Journal) : List Notice :=
  j.seen fun
    | .notice (.retrying number limit endpoint e) => some (.retrying number limit endpoint e)
    | _ => none

def dials (j : Journal) : List (Kind × Endpoint) :=
  j.seen fun
    | .began (.connecting kind endpoint) => some (kind, endpoint)
    | _ => none

def releases (j : Journal) : List (Kind × Endpoint) :=
  j.seen fun
    | .notice (.released kind endpoint) => some (kind, endpoint)
    | _ => none

end Journal

def Outcome.error? : Outcome α → Option Error
  | .failed e => some e
  | _ => none

namespace Link

/-- The outcome of a connect to an endpoint, by the reply. -/
def outcome (kind : Kind) (endpoint : Endpoint) (config : Config) : Reply → Outcome Link
  | .connected socket => .done (fresh kind ⟨socket, endpoint⟩)
  | .failed fault => .failed (.io fault)
  | .silent =>
    match config.connectTimeout with
    | some limit => .failed (.connectTimeout endpoint.text limit)
    | none => .pending

theorem outcome_done (kind : Kind) (endpoint : Endpoint) (config : Config) (r : Reply) (l : Link)
    (h : outcome kind endpoint config r = .done l) :
    ∃ socket, l = fresh kind ⟨socket, endpoint⟩ := by
  cases r with
  | connected socket => exact ⟨socket, (Outcome.done.inj h).symm⟩
  | failed fault => cases h
  | silent =>
    unfold outcome at h
    dsimp only at h
    split at h
    · cases h
    · cases h

/-- The events of a connect by its outcome, the latest first. -/
def trace (kind : Kind) (endpoint : Endpoint) (r : Outcome Link) : Journal :=
  (match r with
    | .done _ =>
      [.notice (.established kind endpoint), .count (.opened kind), .count (.connectDuration kind)]
    | .failed e => [.notice (.connectFailed kind endpoint e), .count (.errors kind e.category)]
    | _ => []) ++
  [.ended, .began (.connecting kind endpoint), .count (.attempts kind)]

@[simp] theorem trace_attempts (kind : Kind) (endpoint : Endpoint) (r : Outcome Link)
    (j : Journal) :
    (trace kind endpoint r ++ j).total (.attempts kind) = j.total (.attempts kind) + 1 := by
  cases r <;> simp [trace]

@[simp] theorem trace_errors (kind : Kind) (endpoint : Endpoint) (r : Outcome Link)
    (j : Journal) (c : Category) :
    (trace kind endpoint r ++ j).total (.errors kind c) =
      j.total (.errors kind c) + r.error?.toList.countP fun e => e.category = c := by
  cases r <;> simp [trace, Outcome.error?]

@[simp] theorem trace_waits (kind : Kind) (endpoint : Endpoint) (r : Outcome Link)
    (j : Journal) : (trace kind endpoint r ++ j).waits = j.waits := by
  rw [Journal.waits, Journal.seen_append]
  cases r <;> exact List.append_nil _

@[simp] theorem trace_warnings (kind : Kind) (endpoint : Endpoint) (r : Outcome Link)
    (j : Journal) : (trace kind endpoint r ++ j).warnings = j.warnings := by
  rw [Journal.warnings, Journal.seen_append]
  cases r <;> exact List.append_nil _

/-- A connect dials its endpoint once, whatever the outcome. -/
@[simp] theorem trace_dials (kind : Kind) (endpoint : Endpoint) (r : Outcome Link)
    (j : Journal) : (trace kind endpoint r ++ j).dials = j.dials ++ [(kind, endpoint)] := by
  rw [Journal.dials, Journal.seen_append]
  cases r <;> rfl

def reply (net : Fabric σ) (endpoint : Endpoint) (config : Config) (s : σ) : Reply :=
  (net.connect endpoint config.connectTimeout s).1

def next (net : Fabric σ) (endpoint : Endpoint) (config : Config) (s : σ) : σ :=
  (net.connect endpoint config.connectTimeout s).2

def dialled (net : Fabric σ) (kind : Kind) (endpoint : Endpoint) (config : Config)
    (w : World σ) : World σ :=
  { w with
    net := next net endpoint config w.net
    journal :=
      trace kind endpoint (outcome kind endpoint config (reply net endpoint config w.net)) ++
        w.journal }

/-- A connect asks the network once, and the reply decides all the rest. -/
theorem connect_eq_of_reply (net : Fabric σ) (kind : Kind) (endpoint : Endpoint)
    (config : Config) (w : World σ) :
    connect net kind endpoint config w =
      (outcome kind endpoint config (reply net endpoint config w.net),
        dialled net kind endpoint config w) := by
  have asked : (dialling kind endpoint w).net = w.net := rfl
  rw [connect_eq, Transport.connect, asked]
  simp only [dialled, reply, next]
  obtain ⟨socket | fault | _, s⟩ := net.connect endpoint config.connectTimeout w.net
  · rfl
  · rfl
  · cases limit : config.connectTimeout <;> simp only [outcome, limit] <;> rfl

end Link
end Tether
