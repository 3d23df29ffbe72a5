/-!
# Sets of characters

A set is written as inclusive ranges of code points. The ranges of a set are ascending
and do not touch, so equal sets have equal ranges. Code points that are no characters
may be in a set and make no difference.
-/
namespace Tether.Text

/-- Inclusive ranges of code points. -/
abbrev CodeRanges := List (Nat × Nat)

namespace CodeRanges

/-- Adds a range to ranges that begin no later, with the last one in front. -/
def extend (joined : CodeRanges) (r : Nat × Nat) : CodeRanges :=
  match joined with
  | [] => [r]
  | last :: before =>
    if r.1 ≤ last.2 + 1 then (last.1, max last.2 r.2) :: before else r :: joined

/-- The same code points with ascending ranges that do not touch. -/
def normalize (rs : CodeRanges) : CodeRanges :=
  ((rs.mergeSort fun a b => a.1 ≤ b.1).foldl extend []).reverse

def union (a b : CodeRanges) : CodeRanges := normalize (a ++ b)

def overlap? (r s : Nat × Nat) : Option (Nat × Nat) :=
  if max r.1 s.1 ≤ min r.2 s.2 then some (max r.1 s.1, min r.2 s.2) else none

def intersection (a b : CodeRanges) : CodeRanges :=
  normalize (a.flatMap fun r => b.filterMap (overlap? r))

/-- The code points from a first to a last one that are in none of the ranges, which
are ascending. -/
def gaps (last : Nat) : Nat → CodeRanges → CodeRanges
  | first, [] => if first ≤ last then [(first, last)] else []
  | first, r :: rest =>
    let tail := gaps last (r.2 + 1) rest
    if first < r.1 then (first, r.1 - 1) :: tail else tail

/-- The other code points up to a last one. -/
def complement (last : Nat) (a : CodeRanges) : CodeRanges := gaps last 0 (normalize a)

def difference (last : Nat) (a b : CodeRanges) : CodeRanges :=
  intersection a (complement last b)

def symmetricDifference (last : Nat) (a b : CodeRanges) : CodeRanges :=
  difference last (union a b) (intersection a b)

def withBothCases (a : CodeRanges) : CodeRanges :=
  let upper := (intersection a [(0x41, 0x5a)]).map fun r => (r.1 + 32, r.2 + 32)
  let lower := (intersection a [(0x61, 0x7a)]).map fun r => (r.1 - 32, r.2 - 32)
  normalize (a ++ upper ++ lower)

end CodeRanges

/-- A set of characters. A set of bytes is not the same as the set of those characters
that the bytes encode, though the same texts are made of them. -/
structure CharSet where
  ranges : CodeRanges
  isOfBytes : Bool := false
  deriving DecidableEq, Repr

namespace CharSet

def contains (s : CharSet) (c : Char) : Bool :=
  s.ranges.any fun r => r.1 ≤ c.toNat && c.toNat ≤ r.2

def lastCodePoint : Nat := 0x10ffff

def allBut (rs : CodeRanges) : CharSet :=
  { ranges := CodeRanges.complement lastCodePoint rs }

def single? (s : CharSet) : Option Char :=
  match s.ranges with
  | [r] => if r.1 = r.2 then some (Char.ofNat r.1) else none
  | _ => none

end CharSet

/-- The ASCII characters of the kinds that have a name. -/
def asciiKind? : String → Option CodeRanges
  | "alnum" => some [(0x30, 0x39), (0x41, 0x5a), (0x61, 0x7a)]
  | "alpha" => some [(0x41, 0x5a), (0x61, 0x7a)]
  | "ascii" => some [(0, 0x7f)]
  | "blank" => some [(0x09, 0x09), (0x20, 0x20)]
  | "cntrl" => some [(0, 0x1f), (0x7f, 0x7f)]
  | "digit" => some [(0x30, 0x39)]
  | "graph" => some [(0x21, 0x7e)]
  | "lower" => some [(0x61, 0x7a)]
  | "print" => some [(0x20, 0x7e)]
  | "punct" => some [(0x21, 0x2f), (0x3a, 0x40), (0x5b, 0x60), (0x7b, 0x7e)]
  | "space" => some [(0x09, 0x0d), (0x20, 0x20)]
  | "upper" => some [(0x41, 0x5a)]
  | "word" => some [(0x30, 0x39), (0x41, 0x5a), (0x5f, 0x5f), (0x61, 0x7a)]
  | "xdigit" => some [(0x30, 0x39), (0x41, 0x46), (0x61, 0x66)]
  | _ => none

end Tether.Text
