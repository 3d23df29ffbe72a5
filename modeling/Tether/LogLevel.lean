import Tether.Text.Numeral

/-!
# Log levels

A level is given by name or by a number without sign, and larger numbers ask for
less. A number beyond 64 bits stands for the largest one.
-/
namespace Tether

/-- How grave an event is. -/
inductive Severity where
  | trace | debug | info | warn | error
  deriving DecidableEq, Repr

namespace Severity

def text : Severity → String
  | trace => "trace"
  | debug => "debug"
  | info => "info"
  | warn => "warn"
  | error => "error"

def mark : Severity → String
  | trace => "TRACE"
  | debug => "DEBUG"
  | info => "INFO"
  | warn => "WARN"
  | error => "ERROR"

def rank : Severity → Nat
  | trace => 0
  | debug => 1
  | info => 2
  | warn => 3
  | error => 4

end Severity

namespace LogLevel

def names : List String := ["trace", "debug", "info", "warning", "error", "fatal"]

def largest : Nat := 18446744073709551615

/-- The level that a text stands for. -/
def parse? (s : String) : Option Nat :=
  let cs := s.toList
  if !cs.isEmpty && cs.all Char.isDigit then
    -- Digits can only be refused for being too large a number.
    match Text.readNumeral largest cs with
    | .ok n => some n
    | .error _ => some largest
  else names.findIdx? (· == s)

/-- The least severity that passes at a level. -/
def filter : Nat → Severity
  | 0 => .trace
  | 1 => .debug
  | 2 => .info
  | 3 => .warn
  | _ => .error

end LogLevel
end Tether
