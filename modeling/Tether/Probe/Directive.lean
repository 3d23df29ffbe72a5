import Tether.LogLevel
import Tether.Text.Alphanumeric
import Tether.Text.Blank
import Tether.Text.Numeral
import Tether.Text.Pattern.Automaton
import Tether.Text.Pattern.Reader
import Tether.Text.Piece
import Tether.Text.Scalar

/-!
# Directives for the log

A directive says down to which severity messages are shown, for whom. It has the form
`part[span{field=value}]=severity`, and everything may be left out but one of the
part, the brackets and the severity. A word alone is a severity if it can be one and a
part otherwise, and a directive without a severity shows everything.

Blanks around a directive are no part of its form. The pieces of the form are cut out
of the whole text, however, at the places that they have in the text without those
blanks: a blank at the end comes to the last piece, and a blank in front moves all.
-/
namespace Tether.Probe

/-- The least severity shown, or nothing at all. -/
abbrev Threshold := Option Severity

def Threshold.admits (t : Threshold) (s : Severity) : Bool := t.any (·.rank ≤ s.rank)

inductive ValueTest where
  /-- A truth value or a number, which no text is. -/
  | scalar
  | like (source : String) (pattern : Text.Pattern)
  deriving DecidableEq, Repr

/-- A field that must be there, and what its value must be like. -/
structure FieldTest where
  name : String
  value : Option ValueTest := none
  deriving DecidableEq, Repr

/-- For which part, within which span, about which field, and down to which severity. -/
structure Directive where
  part : Option String := none
  span : Option String := none
  field : Option FieldTest := none
  threshold : Threshold := some .trace
  deriving DecidableEq, Repr

def numbered? : Nat → Option Threshold
  | 0 => some none
  | 1 => some (some .error)
  | 2 => some (some .warn)
  | 3 => some (some .info)
  | 4 => some (some .debug)
  | 5 => some (some .trace)
  | _ => none

/-- The threshold that a word in any case of letters stands for. -/
def named? (word : List Char) : Option Threshold :=
  match String.ofList (word.map Char.toLower) with
  | "off" => some none
  | "error" => some (some .error)
  | "warn" => some (some .warn)
  | "info" => some (some .info)
  | "debug" => some (some .debug)
  | "trace" => some (some .trace)
  | _ => none

def threshold? (word : List Char) : Option Threshold :=
  match Text.readNumeral LogLevel.largest word with
  | .ok n => numbered? n
  | .error _ => named? word

/-- The test that a text stands for: everything but a scalar is a pattern. -/
def valueTest? (s : String) : Option ValueTest :=
  if Text.isScalar s then some .scalar else (Text.Pattern.parse? s).map (.like s)

/-- The test of a field: a name, or a name and a value with an equals sign between. What
follows a second equals sign does not count. -/
def fieldTest? (cs : List Char) : Option FieldTest :=
  match cs.splitOn '=' with
  | name :: value :: _ =>
    (valueTest? (String.ofList value)).map
      fun v => { name := String.ofList name, value := some v }
  | _ => if cs.isEmpty then none else some { name := String.ofList cs }

/-- What is being read, and where it began. -/
inductive Directive.Stage where
  | beginning
  | word (start : Nat)
  | span (start : Nat)
  | field (start : Nat)
  | fieldRead
  | bracketRead
  | threshold (start : Nat)
  deriving DecidableEq, Repr

namespace Directive

/-- Whether a directive can begin with a character, apart from a bracket. -/
def isBeginning (c : Char) : Bool :=
  Text.isAlphanumeric c || c == '-' || c == ':' || c == '_'

def step (source : List Char) (place : Nat) (c : Char) : Stage × Directive →
    Option (Stage × Directive)
  | (.beginning, d) =>
    if c = '[' then some (.span (place + 1), d)
    else if isBeginning c then some (.word place, d)
    else none
  | (.word start, d) =>
    if c = '=' then do
      let part ← Text.piece? source start place
      return (.threshold (place + 1), { d with part := some (String.ofList part) })
    else if c = '[' then do
      let part ← Text.piece? source start place
      return (.span (place + 1), { d with part := some (String.ofList part) })
    else some (.word start, d)
  | (.span start, d) =>
    if c = ']' then do
      let name ← Text.piece? source start place
      return (.bracketRead, { d with span := some (String.ofList name) })
    else if c = '\x7b' then do
      let name ← Text.piece? source start place
      let span := if name.isEmpty then none else some (String.ofList name)
      return (.field (place + 1), { d with span })
    else some (.span start, d)
  | (.field start, d) =>
    if c = '\x7d' then do
      let test ← fieldTest? (← Text.piece? source start place)
      return (.fieldRead, { d with field := some test })
    else some (.field start, d)
  | (.fieldRead, d) => if c = ']' then some (.bracketRead, d) else none
  | (.bracketRead, d) => if c = '=' then some (.threshold (place + 1), d) else none
  | (.threshold start, d) => some (.threshold start, d)

def steps (source : List Char) : Nat → List Char → Stage × Directive → Option (Stage × Directive)
  | _, [], r => some r
  | place, c :: rest, r => do
    steps source (place + c.utf8Size) rest (← step source place c r)

def finish (source : List Char) : Stage × Directive → Option Directive
  | (.word start, d) => do
    let word ← Text.tail? source start
    match threshold? word with
    | some threshold => return { d with threshold }
    | none => return { d with part := some (String.ofList word) }
  | (.threshold start, d) => do
    let word ← Text.tail? source start
    if word.isEmpty then return d
    else return { d with threshold := ← threshold? word }
  | (.bracketRead, d) => some d
  | _ => none

def parse? (source : List Char) : Option Directive := do
  finish source (← steps source 0 (Text.trim source) (.beginning, {}))

/-- The directives of a list with commas between them, if none is malformed. The
empty list shows errors. -/
def parseAll? (s : String) : Option (List Directive) :=
  match ((s.toList.splitOn ',').filter (fun d => !d.isEmpty)).mapM parse? with
  | none => none
  | some [] => some [{ threshold := some .error }]
  | some ds => some ds

end Directive
end Tether.Probe
