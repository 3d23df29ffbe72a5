import Tether.TimeInfo
import Tether.Json.Value

/-!
# Time information as JSON

A duration is written as an object of its two parts, and time information as an
object of its four durations, without white space. Reading also takes arrays with
exactly the parts in order, and members in any order. Each field has to be there
once. Strangers are ignored beside the four durations, and refused inside a
duration. Nanoseconds have 32 bits in the text and carry into the seconds.

Time information only derives this format. The shape of records and durations is
the documented one of serde and the text that of serde_json, two third-party
libraries, and this module follows their documentation.
-/
namespace Tether

def Duration.toJson (d : Duration) : String :=
  "\x7b\"secs\":" ++ toString d.secs ++ ",\"nanos\":" ++ toString d.nanos ++ "\x7d"

/-- The duration with the given parts, if they have 64 and 32 bits and fit. -/
def Duration.ofWritten? (secs nanos : Nat) : Option Duration :=
  if secs < 18446744073709551616 ∧ nanos < 4294967296 then Duration.ofParts? secs nanos else none

def Duration.ofJson? : Json.Value → Option Duration
  | .array [.natural s, .natural n] => ofWritten? s n
  | .object [(some "secs", .natural s), (some "nanos", .natural n)] => ofWritten? s n
  | .object [(some "nanos", .natural n), (some "secs", .natural s)] => ofWritten? s n
  | _ => none

namespace TimeInfo

def toJson (t : TimeInfo) : String :=
  "\x7b\"encode_duration\":" ++ t.encode.toJson ++
  ",\"decode_duration\":" ++ t.decode.toJson ++
  ",\"commit_duration\":" ++ t.commit.toJson ++
  ",\"execution_duration\":" ++ t.execution.toJson ++ "\x7d"

/-- The duration of the only member with a name. -/
def member? (name : String) (members : List (Option String × Json.Value)) : Option Duration :=
  match members.filter (fun m => m.1 == some name) with
  | [(_, v)] => Duration.ofJson? v
  | _ => none

def ofParts? (e d c x : Option Duration) : Option TimeInfo :=
  match e, d, c, x with
  | some e, some d, some c, some x => some ⟨e, d, c, x⟩
  | _, _, _, _ => none

def ofJson? : Json.Value → Option TimeInfo
  | .array [e, d, c, x] =>
    ofParts? (Duration.ofJson? e) (Duration.ofJson? d) (Duration.ofJson? c) (Duration.ofJson? x)
  | .object members =>
    if members.all (fun m => m.1.isSome) then
      ofParts? (member? "encode_duration" members) (member? "decode_duration" members)
        (member? "commit_duration" members) (member? "execution_duration" members)
    else none
  | _ => none

def parse? (s : String) : Option TimeInfo := (Json.parse? s).bind ofJson?

/-- Reads a JSON text into a register: whether the text was accepted, and what the register
holds then. -/
def restore (register : TimeInfo) (s : String) : Bool × TimeInfo :=
  match parse? s with
  | some t => (true, t)
  | none => (false, register)

end TimeInfo
end Tether
