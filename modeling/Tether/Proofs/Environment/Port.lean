import Tether.Proofs.Environment.Precedence
import Tether.Proofs.Text.Blank
import Tether.Proofs.Text.Numeral

/-!
# Which port settings are accepted

A port setting is a numeral between blanks whose number has sixteen bits. Each such setting
gives an endpoint with exactly this port, and nothing else does: no number is cut down to
sixteen bits, and neither zeros in front nor blanks around it matter. The simulator and an
enabled daemon are addressed in the same way, each by variables of its own.
-/
namespace Tether

namespace Text

theorem isBlank_of_isDigit {c : Char} (digit : c.isDigit = true) : isBlank c = false := by
  have bounds : 48 ≤ c.toNat ∧ c.toNat ≤ 57 := Char.isDigit_iff_toNat.mp digit
  simp only [isBlank, Bool.or_eq_false_iff, Bool.and_eq_false_iff, decide_eq_false_iff_not,
    beq_eq_false_iff_ne]
  omega

/-- A numeral has no blanks, so padding never takes a part of it away. -/
theorem Numeral.trimmed {s : List Char} {n : Nat} (numeral : Numeral s n) : Trimmed s := by
  apply trimmed_of_visible
  cases numeral with
  | plain digits => exact fun c found => isBlank_of_isDigit (digits.digit c found)
  | signed digits =>
    rw [List.forall_mem_cons]
    exact ⟨by decide, fun c found => isBlank_of_isDigit (digits.digit c found)⟩

end Text

namespace Environment

/-- The text denotes a number: it is a numeral between blanks. -/
def PortSetting (value : String) (n : Nat) : Prop :=
  ∃ numeral, Text.Numeral numeral n ∧ Text.Padded numeral value.toList

theorem portSetting_iff_trim (value : String) (n : Nat) :
    PortSetting value n ↔ Text.Numeral (Text.trim value.toList) n := by
  constructor
  · rintro ⟨numeral, denotes, padded⟩
    rwa [Text.trim_of_padded denotes.trimmed padded]
  · exact fun denotes => ⟨_, denotes, Text.trim_padded value.toList⟩

/-- Nothing but the grammar and the sixteen bits decides. -/
theorem port_eq_ok_iff (name value : String) (p : UInt16) :
    port name value = .ok p ↔ PortSetting value p.toNat := by
  rw [portSetting_iff_trim, ← Text.readPort_eq_ok_iff, port]
  cases Text.readPort (Text.trim value.toList) with
  | ok n => simp only [Except.ok.injEq]
  | error fault => simp

/-- A numeral with zeros in front and blanks around it denotes its number. -/
theorem portSetting_of_padded (value : String) (p : UInt16) (zeros : Nat)
    (padded : Text.Padded (List.replicate zeros '0' ++ (Endpoint.portText p).toList) value.toList) :
    PortSetting value p.toNat := by
  rw [Endpoint.portText, Nat.toString_eq_ofList_toDigits, String.toList_ofList] at padded
  have numeral := Text.Numeral.plain ((Text.digits_toDigits p.toNat).zeros zeros)
  rw [Text.decimal_zeros, Text.decimal_toDigits] at numeral
  exact ⟨_, numeral, padded⟩

theorem endpoint_eq_ok_iff (host : Option String) (name value : String) (e : Endpoint) :
    endpoint host name value = .ok e ↔
      PortSetting value e.port.toNat ∧ e.host = host.getD "127.0.0.1" := by
  rw [← port_eq_ok_iff name, endpoint]
  obtain ⟨h, p⟩ := e
  cases port name value with
  | ok n => simp [and_comm, eq_comm, defaultHost]
  | error fault => simp

/-- How an address follows from the variables for its host and its port. -/
structure Addressed (env : Environment) (host port : String) (read : Except Error Endpoint) :
    Prop where
  ok_iff : ∀ e, read = .ok e ↔ ∃ value, env.get port = some value ∧
    PortSetting value e.port.toNat ∧ e.host = (env.get host).getD "127.0.0.1"
  accepts_iff : (∃ e, read = .ok e) ↔
    ∃ value n, env.get port = some value ∧ PortSetting value n ∧ n ≤ 65535
  faults : ∀ e, read = .error e → ∃ fault, e = .environment fault
  /-- The text of a port is read back with any zeros in front and any blanks around it. -/
  padded : ∀ value (p : UInt16) zeros, env.get port = some value →
    Text.Padded (List.replicate zeros '0' ++ (Endpoint.portText p).toList) value.toList →
    read = .ok ⟨(env.get host).getD "127.0.0.1", p⟩

/-- What is accepted is all that there is to know of an address. -/
theorem Addressed.of_ok_iff {env : Environment} {host port : String} {read : Except Error Endpoint}
    (ok_iff : ∀ e, read = .ok e ↔ ∃ value, env.get port = some value ∧
      PortSetting value e.port.toNat ∧ e.host = (env.get host).getD "127.0.0.1")
    (faults : ∀ e, read = .error e → ∃ fault, e = .environment fault) :
    env.Addressed host port read where
  ok_iff := ok_iff
  faults := faults
  accepts_iff := by
    constructor
    · rintro ⟨e, accepted⟩
      obtain ⟨value, setting, denotes, -⟩ := (ok_iff e).mp accepted
      exact ⟨value, e.port.toNat, setting, denotes, Nat.le_of_lt_succ e.port.toNat_lt⟩
    · rintro ⟨value, n, setting, denotes, fits⟩
      have exact : (UInt16.ofNat n).toNat = n :=
        UInt16.toNat_ofNat_of_lt' (Nat.lt_succ_of_le fits)
      refine ⟨⟨(env.get host).getD "127.0.0.1", .ofNat n⟩, (ok_iff _).mpr ⟨value, setting, ?_, rfl⟩⟩
      rwa [exact]
  padded value p zeros setting padded :=
    (ok_iff _).mpr ⟨value, setting, portSetting_of_padded value p zeros padded, rfl⟩

/-- Addresses are looked up in one way, with a fault of their own where the port is not set. -/
theorem addressed (env : Environment) (host port : String) (missing : EnvironmentFault) :
    env.Addressed host port (match env.get port with
      | none => .error (.environment missing)
      | some value => endpoint (env.get host) port value) := by
  cases setting : env.get port with
  | none =>
    refine .of_ok_iff (fun e => ?_) fun e failed => ⟨missing, (Except.error.inj failed).symm⟩
    simp [setting]
  | some value =>
    refine .of_ok_iff (fun e => ?_) fun e failed => ⟨_, endpoint_error _ _ _ e failed⟩
    dsimp only
    rw [endpoint_eq_ok_iff, setting]
    simp

/-- The simulator's port and that of an enabled daemon are accepted just if they are numerals of
at most sixteen bits between blanks, and are then taken over exactly. The host is taken as it
is. A daemon that is not enabled has no address, whatever else is set. -/
theorem ports_accepted_by_grammar (env : Environment) :
    env.Addressed Variable.simHost Variable.simPort env.simulator ∧
    (env.get Variable.daemonEnabled = none → env.daemon = .ok none) ∧
    (∀ enabled, env.get Variable.daemonEnabled = some enabled →
      ∃ read, env.daemon = read.map some ∧
        env.Addressed Variable.daemonHost Variable.daemonPort read) := by
  refine ⟨addressed env _ _ _, daemon_of_disabled env, fun enabled setting => ?_⟩
  have decides := (tier_eq_daemon_iff env).mpr ⟨enabled, setting⟩
  exact ⟨env.daemonEndpoint, daemon_of_enabled env decides, addressed env _ _ _⟩

/-- The largest port between blanks, and what would be cut down to a port. -/
example :
    port "P" "\u2003+0065535\n" = .ok 65535 ∧
      port "P" "65536" = .error (.environment (.invalidPort "P" "65536")) ∧
      port "P" "8 0" = .error (.environment (.invalidPort "P" "8 0")) :=
  ⟨rfl, rfl, rfl⟩

end Environment
end Tether
