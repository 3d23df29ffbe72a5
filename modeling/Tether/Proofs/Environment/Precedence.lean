import Tether.Proofs.Environment.Selection

/-!
# Precedence without fallback

The tier that decides is the only one that is heard: what comes out is a backend of that
tier or a fault of the environment, and no variable of another tier has a say. So a fault
in the settings that decide is never a reason to look at those that come next, and changes
to other variables are without effect as long as the tier stays the same.
-/
namespace Tether

def Selection.tier : Selection → Environment.Tier
  | daemon _ => .daemon
  | hardware _ => .hardware
  | simulation _ => .simulation

namespace Environment

/-- The variables that decide within a tier. -/
def Tier.variables : Tier → List String
  | daemon => [Variable.daemonHost, Variable.daemonPort]
  | hardware => [Variable.fpgaIps]
  | simulation => [Variable.simHost, Variable.simPort]

/-- A change to one variable. -/
inductive Edit where
  | set (name value : String)
  | remove (name : String)
  deriving DecidableEq, Repr

def Edit.name : Edit → String
  | set name _ => name
  | remove name => name

def Edit.apply (env : Environment) : Edit → Environment
  | set name value => env.set name value
  | remove name => env.remove name

def edited (env : Environment) (edits : List Edit) : Environment := edits.foldl Edit.apply env

theorem get_apply_of_ne (env : Environment) (e : Edit) (name : String) (h : name ≠ e.name) :
    (e.apply env).get name = env.get name := by
  cases e with
  | set changed value => exact (get_set env changed value name).trans (if_neg h)
  | remove changed => exact (get_remove env changed name).trans (if_neg h)

/-- Changes to other variables leave a variable as it was. -/
theorem get_edited_of_not_mem (env : Environment) (edits : List Edit) (name : String)
    (h : ∀ e ∈ edits, name ≠ e.name) : (env.edited edits).get name = env.get name := by
  induction edits generalizing env with
  | nil => rfl
  | cons e rest ih =>
    have first := get_apply_of_ne env e name (h e List.mem_cons_self)
    exact (ih (e.apply env) fun e' found => h e' (List.mem_cons_of_mem e found)).trans first

/-- An outcome of a selection that stays within a tier: backends of the tier, or a fault of
the environment. -/
def Within {α : Type} (t : Tier) (backends : α → List Selection) : Except Error α → Prop
  | .ok a => ∀ s ∈ backends a, s.tier = t
  | .error e => ∃ fault, e = .environment fault

theorem daemonEndpoint_error (env : Environment) (e : Error)
    (h : env.daemonEndpoint = .error e) : ∃ fault, e = .environment fault := by
  unfold daemonEndpoint at h
  split at h
  · exact ⟨_, (Except.error.inj h).symm⟩
  · exact ⟨_, endpoint_error _ _ _ e h⟩

theorem fpgaIp_error (env : Environment) (e : Error) (h : env.fpgaIp = .error e) :
    ∃ fault, e = .environment fault := by
  unfold fpgaIp at h
  split at h
  · exact ⟨_, (Except.error.inj h).symm⟩
  · cases h
  · exact ⟨_, (Except.error.inj h).symm⟩

/-- Settings that are read for one backend of a tier. -/
theorem within_map {α : Type} {t : Tier} (read : Except Error α) (backend : α → Selection)
    (tier : ∀ a, (backend a).tier = t)
    (faults : ∀ e, read = .error e → ∃ fault, e = .environment fault) :
    Within t (fun s => [s]) (read.map backend) := by
  cases read with
  | ok a =>
    intro s found
    rw [List.mem_singleton.mp found]
    exact tier a
  | error e => exact faults e rfl

theorem simulated_within (env : Environment) :
    Within .simulation (fun s => [s]) env.simulated := by
  unfold simulated
  split
  · exact ⟨_, rfl⟩
  next value _ =>
    exact within_map _ _ (fun _ => rfl) fun e unread => ⟨_, endpoint_error _ _ _ e unread⟩

/-- A selection names a backend of the tier that decides or reports a fault; it never falls
through to another tier. -/
theorem select_within (env : Environment) : Within env.tier (fun s => [s]) env.select := by
  cases tier : env.tier with
  | daemon =>
    rw [select_of_daemon env tier]
    exact within_map _ _ (fun _ => rfl) (daemonEndpoint_error env)
  | hardware =>
    rw [select_of_hardware env tier]
    exact within_map _ _ (fun _ => rfl) (fpgaIp_error env)
  | simulation =>
    rw [select_of_simulation env tier]
    exact simulated_within env

/-- The list without a limit, from the single selection or from the listed FPGAs. -/
theorem selectAll_none_within (env : Environment) : Within env.tier id (env.selectAll none) := by
  by_cases several : env.Several
  · rw [selectAll_of_several env several, several.tier]
    intro s found
    obtain ⟨ip, -, rfl⟩ := List.mem_map.mp found
    rfl
  · have single := select_within env
    rw [selectAll_eq_select env several]
    cases selected : env.select with
    | ok s => rw [selected] at single; exact single
    | error e => rw [selected] at single; exact single

/-- Cutting a list leaves it within its tier. -/
theorem selectAll_within (env : Environment) (limit : Option Nat) :
    Within env.tier id (env.selectAll limit) := by
  cases limit with
  | none => exact selectAll_none_within env
  | some n =>
    have whole := selectAll_none_within env
    rw [selectAll_some]
    cases selected : env.selectAll none with
    | ok l =>
      rw [selected] at whole
      exact fun s found => whole s (List.mem_of_mem_take found)
    | error e => rw [selected] at whole; exact whole

/-- Within a tier both selections depend on its variables alone. -/
theorem selections_congr (env other : Environment) (tier : other.tier = env.tier)
    (agree : ∀ name ∈ env.tier.variables, other.get name = env.get name) :
    other.select = env.select ∧ ∀ limit, other.selectAll limit = env.selectAll limit := by
  cases decides : env.tier with
  | daemon =>
    rw [decides] at tier agree
    have endpoint : other.daemonEndpoint = env.daemonEndpoint := by
      rw [daemonEndpoint, daemonEndpoint, agree Variable.daemonPort (by simp [Tier.variables]),
        agree Variable.daemonHost (by simp [Tier.variables])]
    refine ⟨?_, fun limit => ?_⟩
    · rw [select_of_daemon other tier, select_of_daemon env decides, endpoint]
    · rw [selectAll_of_daemon other limit tier, selectAll_of_daemon env limit decides, endpoint]
  | hardware =>
    rw [decides] at tier agree
    have listed : other.fpgaIps = env.fpgaIps := by
      rw [fpgaIps, fpgaIps, agree Variable.fpgaIps (by simp [Tier.variables])]
    refine ⟨?_, fun limit => ?_⟩
    · rw [select_of_hardware other tier, select_of_hardware env decides, fpgaIp, fpgaIp, listed]
    · rw [selectAll_of_hardware other limit tier, selectAll_of_hardware env limit decides, listed]
  | simulation =>
    rw [decides] at tier agree
    have endpoint : other.simulated = env.simulated := by
      rw [simulated, simulated, agree Variable.simPort (by simp [Tier.variables]),
        agree Variable.simHost (by simp [Tier.variables])]
    refine ⟨?_, fun limit => ?_⟩
    · rw [select_of_simulation other tier, select_of_simulation env decides, endpoint]
    · rw [selectAll_of_simulation other limit tier, selectAll_of_simulation env limit decides,
        endpoint]

/-- The port that a backend listens at is missing or malformed. -/
def PortBroken (env : Environment) (name : String) : Prop :=
  ∀ value, env.get name = some value → ∃ e, port name value = .error e

/-- The settings of a tier do not name a single backend. -/
def Tier.Broken (env : Environment) : Tier → Prop
  | daemon => env.PortBroken Variable.daemonPort
  | hardware => env.fpgaIps.length ≠ 1
  | simulation => env.PortBroken Variable.simPort

theorem endpoint_of_port_error (host : Option String) (name value : String) (e : Error)
    (h : port name value = .error e) : endpoint host name value = .error e := by
  rw [endpoint, h]

/-- An enabled daemon without a valid port is an error even where FPGAs or a simulator could
be reached. -/
theorem daemonEndpoint_of_broken (env : Environment) (h : env.PortBroken Variable.daemonPort) :
    ∃ e, env.daemonEndpoint = .error e := by
  cases setting : env.get Variable.daemonPort with
  | none => exact ⟨_, by rw [daemonEndpoint, setting]⟩
  | some value =>
    obtain ⟨e, unread⟩ := h value setting
    refine ⟨e, ?_⟩
    rw [daemonEndpoint, setting]
    exact endpoint_of_port_error _ _ _ e unread

theorem simulated_of_broken (env : Environment) (h : env.PortBroken Variable.simPort) :
    ∃ e, env.simulated = .error e := by
  cases setting : env.get Variable.simPort with
  | none => exact ⟨_, by rw [simulated, setting]⟩
  | some value =>
    obtain ⟨e, unread⟩ := h value setting
    refine ⟨e, ?_⟩
    rw [simulated, setting]
    dsimp only
    rw [endpoint_of_port_error _ _ _ e unread]
    rfl

theorem fpgaIp_of_broken (env : Environment) (h : env.fpgaIps.length ≠ 1) :
    ∃ e, env.fpgaIp = .error e := by
  unfold fpgaIp
  split
  next => exact ⟨_, rfl⟩
  next ip one => exact absurd (by rw [one]; rfl) h
  next => exact ⟨_, rfl⟩

/-- A fault in the settings of the tier that decides comes out, whatever else is set. -/
theorem select_of_broken (env : Environment) (h : env.tier.Broken env) :
    ∃ fault, env.select = .error (.environment fault) := by
  have within := select_within env
  have failed : ∃ e, env.select = .error e := by
    cases tier : env.tier with
    | daemon =>
      rw [tier] at h
      obtain ⟨e, broken⟩ := daemonEndpoint_of_broken env h
      exact ⟨e, by rw [select_of_daemon env tier, broken]; rfl⟩
    | hardware =>
      rw [tier] at h
      obtain ⟨e, broken⟩ := fpgaIp_of_broken env h
      exact ⟨e, by rw [select_of_hardware env tier, broken]; rfl⟩
    | simulation =>
      rw [tier] at h
      obtain ⟨e, broken⟩ := simulated_of_broken env h
      exact ⟨e, by rw [select_of_simulation env tier, broken]⟩
  obtain ⟨e, failed⟩ := failed
  rw [failed] at within ⊢
  obtain ⟨fault, rfl⟩ := within
  exact ⟨fault, rfl⟩

/-- A list of FPGAs is not a fault for a list of connections; all other faults are. -/
theorem selectAll_of_broken (env : Environment) (limit : Option Nat)
    (h : env.tier.Broken env) (tier : env.tier ≠ .hardware) :
    ∃ fault, env.selectAll limit = .error (.environment fault) := by
  have one : ¬env.Several := fun several => tier several.tier
  obtain ⟨fault, failed⟩ := select_of_broken env h
  have all : env.selectAll none = .error (.environment fault) := by
    rw [selectAll_eq_select env one, failed]
    rfl
  cases limit with
  | none => exact ⟨fault, all⟩
  | some n => exact ⟨fault, by rw [selectAll_some, all]; rfl⟩

/-- What decides a selection, and what is heard of the environment. -/
structure Precedence (env : Environment) : Prop where
  daemon_iff : env.tier = .daemon ↔ ∃ value, env.get Variable.daemonEnabled = some value
  hardware_iff : env.tier = .hardware ↔
    env.get Variable.daemonEnabled = none ∧ env.fpgaIps ≠ []
  simulation_iff : env.tier = .simulation ↔
    env.get Variable.daemonEnabled = none ∧ env.fpgaIps = []
  single : Within env.tier (fun s => [s]) env.select
  list : ∀ limit, Within env.tier id (env.selectAll limit)
  /-- Another environment of the tier gives the same if its variables of the tier do. -/
  heard : ∀ other : Environment, other.tier = env.tier →
    (∀ name ∈ env.tier.variables, other.get name = env.get name) →
    other.select = env.select ∧ ∀ limit, other.selectAll limit = env.selectAll limit
  edits : ∀ changes : List Edit, (∀ e ∈ changes, e.name ∉ env.tier.variables) →
    (env.edited changes).tier = env.tier →
    (env.edited changes).select = env.select ∧
      ∀ limit, (env.edited changes).selectAll limit = env.selectAll limit
  broken_single : env.tier.Broken env → ∃ fault, env.select = .error (.environment fault)
  broken_list : env.tier.Broken env → env.tier ≠ .hardware →
    ∀ limit, ∃ fault, env.selectAll limit = .error (.environment fault)

/-- In every environment one tier decides alone. -/
theorem one_tier_decides (env : Environment) : env.Precedence where
  daemon_iff := tier_eq_daemon_iff env
  hardware_iff := tier_eq_hardware_iff env
  simulation_iff := tier_eq_simulation_iff env
  single := select_within env
  list := selectAll_within env
  heard other tier agree := selections_congr env other tier agree
  edits changes others tier := by
    refine selections_congr env (env.edited changes) tier fun name decides => ?_
    refine get_edited_of_not_mem env changes name fun e found same => ?_
    exact others e found (same ▸ decides)
  broken_single := select_of_broken env
  broken_list broken tier limit := selectAll_of_broken env limit broken tier

/-- The daemon is enabled by nothing but its name, and then has to have a port. -/
example :
    let env : Environment := ⟨[(Variable.daemonEnabled, ""), (Variable.fpgaIps, "a")]⟩
    env.tier = .daemon ∧
      env.select = .error (.environment (.noDaemonPort Variable.daemonPort)) :=
  ⟨rfl, rfl⟩

end Environment
end Tether
