import Tether.Environment
import Tether.Error
import Tether.LogLevel
import Tether.Text.Blank
import Tether.Text.Numeral

/-!
# Settings in the environment

The addresses of the backends, each read from variables of its own. Host names
are taken as they are; ports and lists of addresses may be padded with blanks.
-/
namespace Tether

namespace Variable

/-- The addresses of the allocated FPGAs. -/
def fpgaIps : String := "SLURM_FPGA_IPS"
def simHost : String := "FLANGE_SIMULATION_RCF_HOST"
def simPort : String := "FLANGE_SIMULATION_RCF_PORT"
/-- The daemon is used whenever this is set, even to nothing. -/
def daemonEnabled : String := "QUIGGELDY_ENABLED"
def daemonHost : String := "QUIGGELDY_IP"
def daemonPort : String := "QUIGGELDY_PORT"
def logLevel : String := "QUIGGELDY_LOGLEVEL"

end Variable

def defaultHost : String := "127.0.0.1"

/-- The entries of a list separated by commas, trimmed, without the blank ones. -/
def parseIpList (s : String) : List String :=
  (((s.toList.splitOn ',').map Text.trim).filter (fun e => !e.isEmpty)).map String.ofList

namespace Environment

def fpgaIps (env : Environment) : List String :=
  match env.get Variable.fpgaIps with
  | none => []
  | some s => parseIpList s

/-- The only address in the list of FPGAs. -/
def fpgaIp (env : Environment) : Except Error String :=
  match env.fpgaIps with
  | [] => .error (.environment (.noFpga Variable.fpgaIps))
  | [ip] => .ok ip
  | _ => .error (.environment (.severalFpgas Variable.fpgaIps))

/-- A port setting: a trimmed numeral of sixteen bits. -/
def port (name value : String) : Except Error UInt16 :=
  match Text.readPort (Text.trim value.toList) with
  | .ok n => .ok n
  | .error _ => .error (.environment (.invalidPort name value))

/-- The endpoint with a host, or the default one, and a port setting. -/
def endpoint (host : Option String) (name value : String) : Except Error Endpoint :=
  match port name value with
  | .ok n => .ok ⟨host.getD defaultHost, n⟩
  | .error e => .error e

def simulator (env : Environment) : Except Error Endpoint :=
  match env.get Variable.simPort with
  | none => .error (.environment (.noSimulator Variable.simPort))
  | some value => endpoint (env.get Variable.simHost) Variable.simPort value

/-- Where the daemon listens; nothing if it is not enabled. -/
def daemon (env : Environment) : Except Error (Option Endpoint) :=
  match env.get Variable.daemonEnabled with
  | none => .ok none
  | some _ =>
    match env.get Variable.daemonPort with
    | none => .error (.environment (.noDaemonPort Variable.daemonPort))
    | some value =>
      match endpoint (env.get Variable.daemonHost) Variable.daemonPort value with
      | .ok e => .ok (some e)
      | .error e => .error e

def level? (env : Environment) (name : String) : Option Nat := (env.get name).bind LogLevel.parse?

end Environment
end Tether
