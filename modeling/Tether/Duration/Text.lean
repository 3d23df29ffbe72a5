import Tether.Duration

/-!
# The text of a duration

A duration is shown in the largest unit of `s`, `ms`, `µs` and `ns` in which it is
at least one, with its full fraction and without trailing zeros; zero is `0ns`.
Reports use seconds with all nine decimals instead.
-/
namespace Tether.Duration

/-- A number in decimal with leading zeros up to a width. -/
def padded (width n : Nat) : List Char := (Nat.toDigits 10 n).leftpad width '0'

/-- The decimals of a number of `width` places, with their point, without trailing zeros. -/
def decimals (width n : Nat) : List Char :=
  match ((padded width n).reverse.dropWhile (· == '0')).reverse with
  | [] => []
  | ds => '.' :: ds

def inUnit (whole width part : Nat) (unit : String) : String :=
  String.ofList (Nat.toDigits 10 whole ++ decimals width part) ++ unit

def text (d : Duration) : String :=
  if d.secs ≠ 0 then inUnit d.secs 9 d.nanos "s"
  else if 1000000 ≤ d.nanos then inUnit (d.nanos / 1000000) 6 (d.nanos % 1000000) "ms"
  else if 1000 ≤ d.nanos then inUnit (d.nanos / 1000) 3 (d.nanos % 1000) "µs"
  else inUnit d.nanos 0 0 "ns"

/-- The duration in seconds with nine decimals. -/
def inSeconds (d : Duration) : String :=
  String.ofList (Nat.toDigits 10 d.secs ++ '.' :: padded 9 d.nanos)

end Tether.Duration
