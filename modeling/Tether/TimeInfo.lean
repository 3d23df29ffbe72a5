import Tether.Duration
import Tether.Duration.Text

/-!
# Time spent on behalf of a connection

Four durations are kept: encoding, decoding, committing and waiting for the end
of an execution. They are added field by field in this order, and a sum that is
no duration stops the addition where it stands. Differences never go below zero.
-/
namespace Tether

/-- Durations of a connection's history of use. -/
structure TimeInfo where
  encode : Duration := .zero
  decode : Duration := .zero
  commit : Duration := .zero
  execution : Duration := .zero
  deriving DecidableEq, Repr, Inhabited

/-- How far an addition to a register went. On overflow the register holds the
sums of the fields before the first one that overflowed. -/
inductive Accumulation where
  | complete (total : TimeInfo)
  | overflow (kept : TimeInfo)
  deriving DecidableEq, Repr

namespace Accumulation

def register : Accumulation → TimeInfo
  | complete t => t
  | overflow t => t

end Accumulation

namespace TimeInfo

/-- Adds to a register, field by field. -/
def accumulate (t d : TimeInfo) : Accumulation :=
  match t.encode.add? d.encode with
  | none => .overflow t
  | some e =>
    let t := { t with encode := e }
    match t.decode.add? d.decode with
    | none => .overflow t
    | some e =>
      let t := { t with decode := e }
      match t.commit.add? d.commit with
      | none => .overflow t
      | some e =>
        let t := { t with commit := e }
        match t.execution.add? d.execution with
        | none => .overflow t
        | some e => .complete { t with execution := e }

/-- The sum, if all four fields have one. -/
def add? (a b : TimeInfo) : Option TimeInfo :=
  match a.accumulate b with
  | .complete t => some t
  | .overflow _ => none

/-- Subtracts from a register, field by field. A field never goes below zero. -/
def deduct (t d : TimeInfo) : TimeInfo :=
  let t := { t with encode := t.encode.sub d.encode }
  let t := { t with decode := t.decode.sub d.decode }
  let t := { t with commit := t.commit.sub d.commit }
  { t with execution := t.execution.sub d.execution }

/-- What a register is left with. -/
def sub (a b : TimeInfo) : TimeInfo := a.deduct b

/-- A line for each field. -/
def text (t : TimeInfo) : String :=
  "ConnectionTimeInfo(\n" ++
  "\tencode_duration:    " ++ t.encode.text ++ "\n" ++
  "\tdecode_duration:    " ++ t.decode.text ++ "\n" ++
  "\tcommit_duration:    " ++ t.commit.text ++ "\n" ++
  "\texecution_duration: " ++ t.execution.text ++ "\n)"

end TimeInfo
end Tether
