import Tether.Environment.Selection

/-!
# One backend or a list of them

Three tiers of settings compete: the daemon's, the hardware's and the simulator's. The
tier is decided by two variables alone, and each tier has one equation for the single
selection and one for the list. The two selections differ where several FPGAs are listed
and nowhere else, and a limit only cuts the list.
-/
namespace Tether.Environment

/-- The kind of backend whose settings decide. -/
inductive Tier where
  | daemon | hardware | simulation
  deriving DecidableEq, Repr

/-- The daemon decides if it is enabled, else the hardware if any is listed. -/
def tier (env : Environment) : Tier :=
  if (env.get Variable.daemonEnabled).isSome then .daemon
  else if env.fpgaIps.isEmpty then .simulation
  else .hardware

/-- The daemon is enabled by the mere presence of its variable. -/
theorem tier_eq_daemon_iff (env : Environment) :
    env.tier = .daemon ↔ ∃ value, env.get Variable.daemonEnabled = some value := by
  rw [← Option.isSome_iff_exists]
  unfold tier
  split
  next enabled => simp [enabled]
  next disabled => split <;> simp [disabled]

theorem tier_eq_hardware_iff (env : Environment) :
    env.tier = .hardware ↔ env.get Variable.daemonEnabled = none ∧ env.fpgaIps ≠ [] := by
  unfold tier
  cases env.get Variable.daemonEnabled <;> cases env.fpgaIps <;> simp

theorem tier_eq_simulation_iff (env : Environment) :
    env.tier = .simulation ↔ env.get Variable.daemonEnabled = none ∧ env.fpgaIps = [] := by
  unfold tier
  cases env.get Variable.daemonEnabled <;> cases env.fpgaIps <;> simp

def daemonEndpoint (env : Environment) : Except Error Endpoint :=
  match env.get Variable.daemonPort with
  | none => .error (.environment (.noDaemonPort Variable.daemonPort))
  | some value => endpoint (env.get Variable.daemonHost) Variable.daemonPort value

/-- The simulator, if it is the only backend left. -/
def simulated (env : Environment) : Except Error Selection :=
  match env.get Variable.simPort with
  | none =>
    .error (.environment (.noBackend
      (Variable.daemonEnabled ++ ", " ++ Variable.fpgaIps ++ " or " ++ Variable.simPort)))
  | some value =>
    (endpoint (env.get Variable.simHost) Variable.simPort value).map .simulation

theorem daemon_of_disabled (env : Environment) (h : env.get Variable.daemonEnabled = none) :
    env.daemon = .ok none := by
  rw [daemon, h]

theorem daemon_of_enabled (env : Environment) (h : env.tier = .daemon) :
    env.daemon = env.daemonEndpoint.map some := by
  obtain ⟨value, enabled⟩ := (tier_eq_daemon_iff env).mp h
  rw [daemon, enabled, daemonEndpoint]
  cases env.get Variable.daemonPort with
  | none => rfl
  | some port =>
    dsimp only
    split
    next e listens => rw [listens]; rfl
    next e broken => rw [broken]; rfl

/-- A port setting that is missing or malformed is a fault of the environment. -/
theorem endpoint_error (host : Option String) (name value : String) (e : Error)
    (h : endpoint host name value = .error e) : e = .environment (.invalidPort name value) := by
  unfold endpoint port at h
  split at h
  · cases h
  next e' unread =>
    split at unread
    · cases unread
    · rw [← Except.error.inj h, ← Except.error.inj unread]

theorem select_of_daemon (env : Environment) (h : env.tier = .daemon) :
    env.select = env.daemonEndpoint.map .daemon := by
  rw [select, daemon_of_enabled env h]
  cases env.daemonEndpoint <;> rfl

theorem selectAll_of_daemon (env : Environment) (limit : Option Nat) (h : env.tier = .daemon) :
    env.selectAll limit = env.daemonEndpoint.map fun e => limited limit [.daemon e] := by
  rw [selectAll, daemon_of_enabled env h]
  cases env.daemonEndpoint <;> rfl

theorem select_of_hardware (env : Environment) (h : env.tier = .hardware) :
    env.select = env.fpgaIp.map .hardware := by
  obtain ⟨disabled, listed⟩ := (tier_eq_hardware_iff env).mp h
  rw [select, daemon_of_disabled env disabled]
  dsimp only
  rw [if_pos (by simpa using listed)]
  cases env.fpgaIp <;> rfl

theorem selectAll_of_hardware (env : Environment) (limit : Option Nat)
    (h : env.tier = .hardware) :
    env.selectAll limit = .ok (limited limit (env.fpgaIps.map .hardware)) := by
  obtain ⟨disabled, listed⟩ := (tier_eq_hardware_iff env).mp h
  rw [selectAll, daemon_of_disabled env disabled]
  dsimp only
  rw [if_pos (by simpa using listed)]

theorem select_of_simulation (env : Environment) (h : env.tier = .simulation) :
    env.select = env.simulated := by
  obtain ⟨disabled, unlisted⟩ := (tier_eq_simulation_iff env).mp h
  rw [select, daemon_of_disabled env disabled, unlisted, simulated, simulator]
  cases env.get Variable.simPort with
  | none => rfl
  | some value =>
    simp only [List.isEmpty_nil, Bool.not_true, Bool.false_eq_true, if_false, Option.isSome_some,
      if_true]
    cases endpoint (env.get Variable.simHost) Variable.simPort value <;> rfl

theorem selectAll_of_simulation (env : Environment) (limit : Option Nat)
    (h : env.tier = .simulation) :
    env.selectAll limit = env.simulated.map fun s => limited limit [s] := by
  obtain ⟨disabled, unlisted⟩ := (tier_eq_simulation_iff env).mp h
  rw [selectAll, select_of_simulation env h, daemon_of_disabled env disabled, unlisted]
  cases env.simulated <;> rfl

/-- Several FPGAs are listed, and nothing comes before them. -/
def Several (env : Environment) : Prop :=
  env.get Variable.daemonEnabled = none ∧ 2 ≤ env.fpgaIps.length

theorem Several.tier {env : Environment} (h : env.Several) : env.tier = .hardware := by
  refine (tier_eq_hardware_iff env).mpr ⟨h.1, fun empty => ?_⟩
  have two := h.2
  rw [empty] at two
  contradiction

theorem select_of_several (env : Environment) (h : env.Several) :
    env.select = .error (.environment (.severalFpgas Variable.fpgaIps)) := by
  have two := h.2
  have ambiguous : env.fpgaIp = .error (.environment (.severalFpgas Variable.fpgaIps)) := by
    unfold fpgaIp
    split
    next none => rw [none] at two; contradiction
    next ip one => rw [one] at two; contradiction
    next => rfl
  rw [select_of_hardware env h.tier, ambiguous]
  rfl

theorem selectAll_of_several (env : Environment) (h : env.Several) :
    env.selectAll none = .ok (env.fpgaIps.map .hardware) :=
  selectAll_of_hardware env none h.tier

/-- Apart from several FPGAs, the list is the single selection and nothing else. -/
theorem selectAll_eq_select (env : Environment) (h : ¬env.Several) :
    env.selectAll none = env.select.map fun s => [s] := by
  cases tier : env.tier with
  | daemon =>
    rw [selectAll_of_daemon env none tier, select_of_daemon env tier]
    cases env.daemonEndpoint <;> rfl
  | simulation =>
    rw [selectAll_of_simulation env none tier, select_of_simulation env tier]
    cases env.simulated <;> rfl
  | hardware =>
    rw [selectAll_of_hardware env none tier, select_of_hardware env tier, fpgaIp]
    obtain ⟨disabled, listed⟩ := (tier_eq_hardware_iff env).mp tier
    match ips : env.fpgaIps with
    | [] => exact absurd ips listed
    | [ip] => rfl
    | first :: second :: rest => exact absurd ⟨disabled, by simp [ips]⟩ h

/-- A limit cuts the list and leaves an error as it is. -/
theorem selectAll_some (env : Environment) (n : Nat) :
    env.selectAll (some n) = (env.selectAll none).map (·.take n) := by
  cases tier : env.tier with
  | daemon =>
    rw [selectAll_of_daemon env _ tier, selectAll_of_daemon env _ tier]
    cases env.daemonEndpoint <;> rfl
  | hardware =>
    rw [selectAll_of_hardware env _ tier, selectAll_of_hardware env _ tier]
    rfl
  | simulation =>
    rw [selectAll_of_simulation env _ tier, selectAll_of_simulation env _ tier]
    cases env.simulated <;> rfl

/-- How the selection of one backend and that of a list relate. -/
structure Agree (env : Environment) : Prop where
  single_iff : ∀ s, env.select = .ok s ↔ env.selectAll none = .ok [s]
  nonempty : ∀ l, env.selectAll none = .ok l → l ≠ []
  differ_iff : ¬((∃ s, env.select = .ok s) ↔ ∃ l, env.selectAll none = .ok l) ↔ env.Several
  several : env.Several → (∃ fault, env.select = .error (.environment fault)) ∧
    env.selectAll none = .ok (env.fpgaIps.map .hardware)
  same_error : ∀ e e', env.select = .error e → env.selectAll none = .error e' → e = e'
  limited : ∀ n, env.selectAll (some n) = (env.selectAll none).map (·.take n)

/-- Both selections follow one precedence in every environment. They differ in success
exactly if several FPGAs are listed and no daemon is enabled. -/
theorem select_agrees_with_selectAll (env : Environment) : env.Agree := by
  by_cases several : env.Several
  · have single := select_of_several env several
    have list := selectAll_of_several env several
    have two := several.2
    refine
      { single_iff := fun s => ?_
        nonempty := fun l found => ?_
        differ_iff := ?_
        several := fun _ => ⟨⟨_, single⟩, list⟩
        same_error := fun e e' _ failed => ?_
        limited := selectAll_some env }
    · rw [single, list]
      refine ⟨fun failed => (by cases failed), fun one => ?_⟩
      have length := congrArg List.length (Except.ok.inj one)
      rw [List.length_map, List.length_singleton] at length
      omega
    · rw [list] at found
      rw [← Except.ok.inj found]
      intro empty
      rw [List.map_eq_nil_iff.mp empty] at two
      contradiction
    · simp [single, list, several]
    · rw [list] at failed
      cases failed
  · have same := selectAll_eq_select env several
    refine
      { single_iff := fun s => ?_
        nonempty := fun l found => ?_
        differ_iff := ?_
        several := fun more => absurd more several
        same_error := fun e e' failed failed' => ?_
        limited := selectAll_some env }
    · rw [same]
      cases env.select <;> simp [Except.map]
    · rw [same] at found
      cases selected : env.select with
      | error e => rw [selected] at found; cases found
      | ok s =>
        rw [selected] at found
        rw [← Except.ok.inj found]
        exact List.cons_ne_nil s []
    · rw [same]
      cases env.select <;> simp [Except.map, several]
    · rw [same, failed] at failed'
      exact Except.error.inj failed'

/-- Two FPGAs between blanks. -/
example :
    let env : Environment := ⟨[(Variable.fpgaIps, " a,,b ")]⟩
    env.selectAll none = .ok [.hardware "a", .hardware "b"] ∧
      env.select = .error (.environment (.severalFpgas Variable.fpgaIps)) := by
  cbv

end Tether.Environment
