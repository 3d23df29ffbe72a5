import Tether.Probe

/-!
# Runs against known replies

A run of the probe depends on the network only through the replies to its
connects. With a list of replies it can be run as far as they go: the first
connect past their end finds no answer and names its endpoint. A run that wants
no more is the whole run.
-/
namespace Tether.Probe

/-- Replies still to come, and the endpoint of a connect that found none. -/
structure Replay where
  replies : List Reply
  wanted : Option Endpoint := none
  deriving DecidableEq, Repr

namespace Replay

def connect (endpoint : Endpoint) (r : Replay) : Reply × Replay :=
  match r.replies with
  | reply :: rest => (reply, { r with replies := rest })
  | [] => (.silent, { r with wanted := some endpoint })

/-- A network of known replies; nothing else is asked of it by a probe. -/
def fabric : Fabric Replay where
  connect endpoint _ r := r.connect endpoint
  write _ _ r := (.ok (), r)
  flush _ r := (.ok (), r)
  shutdown _ r := (.ok (), r)
  release _ r := r
  now _ := .zero

end Replay

def replay (arguments : List String) (process : ProcessEnvironment) (replies : List Reply) :
    Ending × World Replay :=
  run Replay.fabric arguments { net := { replies }, process }

end Tether.Probe
