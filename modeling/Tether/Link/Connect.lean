import Tether.Environment.Selection
import Tether.Link

/-!
# Connecting to a backend of a given kind

An FPGA and a simulator get one attempt. The daemon may still be starting up, so
attempts on it are repeated after a wait for as long as the failure is transient
and attempts remain; the failure of the last one is then kept as the source of
the error.
-/
namespace Tether.Link

variable {σ : Type}

def connectArqTo (net : Fabric σ) (config : Config) (ip : String) (w : World σ) :
    Outcome Link × World σ :=
  connect net .arq ⟨ip, config.arqPort⟩ config w

def connectArq (net : Fabric σ) (config : Config) (env : Environment) (w : World σ) :
    Outcome Link × World σ :=
  match env.fpgaIp with
  | .error e => (.failed e, w)
  | .ok ip => connectArqTo net config ip w

def connectSimTo (net : Fabric σ) (config : Config) (endpoint : Endpoint) (w : World σ) :
    Outcome Link × World σ :=
  connect net .sim endpoint config w

def connectSim (net : Fabric σ) (config : Config) (env : Environment) (w : World σ) :
    Outcome Link × World σ :=
  match env.simulator with
  | .error e => (.failed e, w)
  | .ok endpoint => connectSimTo net config endpoint w

/-- The error after the last attempt. -/
def exhausted (config : Config) (endpoint : Endpoint) (last : Error) : Error :=
  .attemptsExhausted endpoint.text config.attempts last

/-- An attempt failed, another one will be made, and there is time in between. -/
def prepareRetry (config : Config) (endpoint : Endpoint) (attempt : Nat) (e : Error)
    (w : World σ) : World σ :=
  (w.notify (.retrying attempt config.attempts.toNat endpoint e)).pause config.attemptWait

/-- A number below another one is not the last of its width. -/
theorem toNat_succ_of_lt {n limit : UInt64} (h : n < limit) : (n + 1).toNat = n.toNat + 1 := by
  have below : n.toNat < limit.toNat := h
  have bound : limit.toNat < 2 ^ 64 := limit.toNat_lt
  have one : (1 : UInt64).toNat = 1 := rfl
  rw [UInt64.toNat_add, one]
  omega

/-- Attempts on the daemon, from the one with a given number on. -/
def attempt (net : Fabric σ) (config : Config) (endpoint : Endpoint) (number : UInt64)
    (w : World σ) : Outcome Link × World σ :=
  match connect net .quiggeldy endpoint config w with
  | (.failed e, w) =>
    if e.isTransient then
      if number < config.attempts then
        attempt net config endpoint (number + 1) (prepareRetry config endpoint number.toNat e w)
      else (.failed (exhausted config endpoint e), w)
    else (.failed e, w)
  | other => other
termination_by config.attempts.toNat - number.toNat
decreasing_by
  -- The counter cannot wrap: it is below the limit whenever it grows.
  have below : number.toNat < config.attempts.toNat := ‹number < config.attempts›
  have grown := toNat_succ_of_lt ‹number < config.attempts›
  omega

def connectDaemonTo (net : Fabric σ) (config : Config) (endpoint : Endpoint) (w : World σ) :
    Outcome Link × World σ :=
  attempt net config endpoint 1 w

def connectDaemon (net : Fabric σ) (config : Config) (env : Environment) (w : World σ) :
    Outcome Link × World σ :=
  match env.daemon with
  | .error e => (.failed e, w)
  | .ok none => (.failed (.environment .daemonNotEnabled), w)
  | .ok (some endpoint) => connectDaemonTo net config endpoint w

end Tether.Link
