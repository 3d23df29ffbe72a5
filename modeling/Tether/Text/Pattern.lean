import Tether.Text.CharSet

/-!
# Text patterns

A pattern is built of characters, sets of characters, and conditions on a place in a
text, by putting patterns one after the other, by ordered alternatives, and by
repetition. The order of alternatives matters, because a match that is preferred
excludes all others (see the automaton of a pattern).

Patterns are built by `sequence`, `choice` and `repetition`, which keep them in a normal
form: no sequence directly within a sequence, no neighbouring literals, no choice
directly within a choice, and no choice of sequences that all begin alike. The last
rule is more than a matter of form: what alternatives have in common at their beginning
is matched once for all of them, and then none of them excludes another before that.
-/
namespace Tether.Text

/-- A condition on a place in a text. -/
inductive Look where
  | textStart
  | textEnd
  | lineStart
  | lineEnd
  /-- As the start of a line, with a carriage return ending a line, too. -/
  | crLineStart
  | crLineEnd
  | wordBoundary
  | noWordBoundary
  | wordStart
  | wordEnd
  deriving DecidableEq, Repr

inductive Pattern where
  | empty
  | literal (cs : List Char)
  | set (s : CharSet)
  | look (l : Look)
  | repeated (atLeastOnce atMostOnce isGreedy : Bool) (p : Pattern)
  | group (number : Nat) (p : Pattern)
  | both (a b : Pattern)
  | either (a b : Pattern)
  deriving DecidableEq, Repr

namespace Pattern

def never : Pattern := set { ranges := [], isOfBytes := true }

def ofSet (s : CharSet) : Pattern :=
  match s.single? with
  | some c => literal [c]
  | none => if s.ranges.isEmpty then never else set s

def shortest? : Pattern → Option Nat
  | empty => some 0
  | literal cs => some cs.length
  | set s => if s.ranges.isEmpty then none else some 1
  | look _ => some 0
  | repeated atLeastOnce _ _ p => (shortest? p).map fun n => if atLeastOnce then n else 0
  | group _ p => shortest? p
  | both a b =>
    match shortest? a, shortest? b with
    | some m, some n => some (m + n)
    | _, _ => none
  | either a b =>
    match shortest? a, shortest? b with
    | some m, some n => some (min m n)
    | _, _ => none

def longest? : Pattern → Option Nat
  | empty => some 0
  | literal cs => some cs.length
  | set s => if s.ranges.isEmpty then none else some 1
  | look _ => some 0
  | repeated _ atMostOnce _ p => if atMostOnce then longest? p else none
  | group _ p => longest? p
  | both a b =>
    match longest? a, longest? b with
    | some m, some n => some (m + n)
    | _, _ => none
  | either a b =>
    match longest? a, longest? b with
    | some m, some n => some (max m n)
    | _, _ => none

/-- Repeats a pattern; what has no length is not repeated more than once. -/
def repetition (atLeastOnce atMostOnce isGreedy : Bool) (p : Pattern) : Pattern :=
  let atMostOnce := atMostOnce || longest? p = some 0
  if atLeastOnce && atMostOnce then p else repeated atLeastOnce atMostOnce isGreedy p

def factors : Pattern → List Pattern
  | empty => []
  | both a b => a :: factors b
  | p => [p]

/-- Patterns with each literal joined to a literal before it. -/
def joinLiterals : List Pattern → List Pattern
  | [] => []
  | literal cs :: rest =>
    match joinLiterals rest with
    | literal ds :: rest => literal (cs ++ ds) :: rest
    | rest => literal cs :: rest
  | p :: rest => p :: joinLiterals rest

/-- Patterns nested to the right. -/
def chain : List Pattern → Pattern
  | [] => empty
  | [p] => p
  | p :: rest => both p (chain rest)

def sequence (ps : List Pattern) : Pattern := chain (joinLiterals (ps.flatMap factors))

def alternatives : Pattern → List Pattern
  | either a b => a :: alternatives b
  | p => [p]

/-- Alternatives nested to the right. -/
def options : List Pattern → Pattern
  | [] => never
  | [p] => p
  | p :: rest => either p (options rest)

def character? : Pattern → Option Char
  | literal [c] => some c
  | _ => none

def set? : Pattern → Option CharSet
  | set s => some s
  | _ => none

def asSet? (ps : List Pattern) : Option CharSet :=
  match ps.mapM character? with
  | some cs => some { ranges := CodeRanges.normalize (cs.map fun c => (c.toNat, c.toNat)) }
  | none =>
    (ps.mapM set?).map fun ss => { ranges := CodeRanges.normalize (ss.flatMap CharSet.ranges) }

/-- One of some alternatives, which are no choices. -/
def oneOf (ps : List Pattern) : Pattern :=
  match ps with
  | [p] => p
  | ps =>
    match asSet? ps with
    | some s => ofSet s
    | none => options ps

/-- What two lists have in common at their beginning. -/
def commonStart : List Pattern → List Pattern → List Pattern
  | p :: ps, q :: qs => if p = q then p :: commonStart ps qs else []
  | _, _ => []

/-- What all sequences have in common at their beginning; nothing if there is an
alternative that is no sequence. -/
def sharedStart (ps : List Pattern) : List Pattern :=
  let parts := ps.map factors
  match parts with
  | [] => []
  | first :: rest =>
    if parts.all (2 ≤ ·.length) then rest.foldl commonStart first else []

/-- One of some patterns, of which the first one is preferred. -/
def choice (ps : List Pattern) : Pattern :=
  let ps := ps.flatMap alternatives
  let shared := sharedStart ps
  if ps.length ≤ 1 || shared.isEmpty || (asSet? ps).isSome then oneOf ps
  else
    let rests := ps.map fun p => sequence ((factors p).drop shared.length)
    sequence (shared ++ [oneOf (rests.flatMap alternatives)])

end Pattern
end Tether.Text
