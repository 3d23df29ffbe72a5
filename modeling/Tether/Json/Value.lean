import Tether.Json.Token

/-!
# JSON values

A text denotes at most one value. Objects keep their members in the order in
which they are written, repeated names included, so that a reader can refuse
repetitions. The text of a string is missing if it pairs units of sixteen bits
wrongly; such a string may stand where nobody looks at it.

The grammar is the one that serde_json documents, a third-party library; what a
reader makes of a value is documented by serde.
-/
namespace Tether.Json

inductive Value where
  | null
  | bool (b : Bool)
  | natural (n : Nat)
  | number
  | string (text : Option String)
  | array (elements : List Value)
  | object (members : List (Option String × Value))

/-- The characters that pieces stand for: two units in the surrogate ranges, high
before low, make one character, and neither stands alone. -/
def characters? : List Piece → Option (List Char)
  | [] => some []
  | .char c :: rest => (characters? rest).map (c :: ·)
  | .unit n :: rest =>
    if n < 0xd800 || 0xe000 ≤ n then (characters? rest).map (Char.ofNat n :: ·)
    else if 0xdc00 ≤ n then none
    else match rest with
      | .unit m :: rest =>
        if 0xdc00 ≤ m && m < 0xe000 then
          (characters? rest).map
            (Char.ofNat (0x10000 + (n - 0xd800) * 0x400 + (m - 0xdc00)) :: ·)
        else none
      | _ => none

def text? (pieces : List Piece) : Option String := (characters? pieces).map String.ofList

mutual

/-- The value at the front of a list of tokens, with a bound on the nesting of calls. -/
def valueWithin : Nat → List Token → Option (Value × List Token)
  | 0, _ => none
  | _ + 1, [] => none
  | _ + 1, .null :: rest => some (.null, rest)
  | _ + 1, .bool b :: rest => some (.bool b, rest)
  | _ + 1, .natural n :: rest => some (.natural n, rest)
  | _ + 1, .number :: rest => some (.number, rest)
  | _ + 1, .string ps :: rest => some (.string (text? ps), rest)
  | _ + 1, .openBracket :: .closeBracket :: rest => some (.array [], rest)
  | n + 1, .openBracket :: rest => (elementsWithin n rest).map fun (vs, r) => (.array vs, r)
  | _ + 1, .openBrace :: .closeBrace :: rest => some (.object [], rest)
  | n + 1, .openBrace :: rest => (membersWithin n rest).map fun (ms, r) => (.object ms, r)
  | _ + 1, _ :: _ => none

/-- At least one element, up to the closing bracket. -/
def elementsWithin : Nat → List Token → Option (List Value × List Token)
  | 0, _ => none
  | n + 1, ts =>
    match valueWithin n ts with
    | some (v, .comma :: rest) => (elementsWithin n rest).map fun (vs, r) => (v :: vs, r)
    | some (v, .closeBracket :: rest) => some ([v], rest)
    | _ => none

/-- At least one member, up to the closing brace. -/
def membersWithin : Nat → List Token → Option (List (Option String × Value) × List Token)
  | 0, _ => none
  | n + 1, .string name :: .colon :: ts =>
    match valueWithin n ts with
    | some (v, .comma :: rest) =>
      (membersWithin n rest).map fun (ms, r) => ((text? name, v) :: ms, r)
    | some (v, .closeBrace :: rest) => some ([(text? name, v)], rest)
    | _ => none
  | _ + 1, _ => none

end

/-- The value that a whole text denotes. Two calls suffice for each token. -/
def parse? (s : String) : Option Value :=
  match tokens? s.toList with
  | none => none
  | some ts =>
    match valueWithin (2 * ts.length + 1) ts with
    | some (v, []) => some v
    | _ => none

end Tether.Json
