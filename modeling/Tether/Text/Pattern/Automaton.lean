import Tether.Text.Pattern

/-!
# The automaton of a pattern

A pattern is matched by an automaton that is at many nodes at once, in an order of
preference. Between two characters it goes on to all nodes that can be reached without a
character, where a condition lets it pass if it holds between these two; a node that is
reached on two ways keeps the preferred place. A character then takes it from each node
to the next one, but from none behind the node that accepts.

A pattern may begin anywhere in a text, and earlier beginnings are preferred, but it
has to end with the text.
-/
namespace Tether.Text

/-- A node, with the numbers of the nodes that follow. -/
inductive Node where
  | step (set : CharSet) (next : Nat)
  | check (look : Look) (next : Nat)
  | fork (nexts : List Nat)
  | fail
  | accept
  deriving DecidableEq, Repr

structure Automaton where
  nodes : Array Node := #[]
  deriving DecidableEq, Repr

namespace Automaton

def node (a : Automaton) (i : Nat) : Node := a.nodes.getD i .fail

/-- The number of a new node, and the automaton with it. -/
def add (a : Automaton) (n : Node) : Nat × Automaton :=
  (a.nodes.size, { nodes := a.nodes.push n })

def replace (a : Automaton) (i : Nat) (n : Node) : Automaton := { nodes := a.nodes.set! i n }

/-- A fork that prefers to go on if it is greedy, and else to stop. -/
def forkTo (isGreedy : Bool) (on stop : Nat) : Node :=
  .fork (if isGreedy then [on, stop] else [stop, on])

/-- Adds nodes for a pattern before a node; the number is that of the first one. -/
def addPattern : Pattern → Nat → Automaton → Nat × Automaton
  | .empty, next, a => (next, a)
  | .literal cs, next, a =>
    cs.foldr (fun c (next, a) => a.add (.step { ranges := [(c.toNat, c.toNat)] } next)) (next, a)
  | .set s, next, a => a.add (if s.ranges.isEmpty then .fail else .step s next)
  | .look l, next, a => a.add (.check l next)
  | .group _ p, next, a => addPattern p next a
  | .both p q, next, a =>
    let (middle, a) := addPattern q next a
    addPattern p middle a
  | .either p q, next, a =>
    let (first, a) := addPattern p next a
    let (second, a) := addPattern q next a
    a.add (.fork [first, second])
  | .repeated atLeastOnce atMostOnce isGreedy p, next, a =>
    if atMostOnce then
      let (first, a) := addPattern p next a
      a.add (forkTo isGreedy first next)
    else
      let (again, a) := a.add .fail
      let (first, a) := addPattern p again a
      let a := a.replace again (forkTo isGreedy first next)
      if atLeastOnce then (first, a)
      else if p.shortest?.any (0 < ·) then (again, a)
      else a.add (forkTo isGreedy first next)

/-- The automaton of a pattern that may begin anywhere, and its first node. -/
def ofPattern (p : Pattern) : Nat × Automaton :=
  let (accept, a) := add {} .accept
  let (first, a) := addPattern p accept a
  let (start, a) := a.add .fail
  let (later, a) := a.add (.step (CharSet.allBut []) start)
  (start, a.replace start (forkTo false later first))

/-- The nodes that follow without a character, where some conditions hold. -/
def followers (holds : Look → Bool) : Node → List Nat
  | .check l next => if holds l then [next] else []
  | .fork nexts => nexts
  | _ => []

/-- How many visits it takes to go through all nodes. -/
def visits (a : Automaton) : Nat :=
  a.nodes.foldl (fun n node => n + (followers (fun _ => true) node).length) 1

/-- Goes through nodes and those that follow without a character, in order of
preference and each only once. The nodes found are the latest first. -/
def explore (a : Automaton) (holds : Look → Bool) :
    Nat → List Nat → Array Bool → List Nat → List Nat
  | 0, _, _, found => found
  | _ + 1, [], _, found => found
  | fuel + 1, i :: rest, seen, found =>
    if seen.getD i true then explore a holds fuel rest seen found
    else
      explore a holds fuel (followers holds (a.node i) ++ rest) (seen.set! i true)
        (i :: found)

def closure (a : Automaton) (holds : Look → Bool) (starts : List Nat) : List Nat :=
  let unseen := Array.replicate a.nodes.size false
  (explore a holds (a.visits + starts.length) starts unseen []).reverse

end Automaton

def isWordChar (c : Char) : Bool := c.isAlphanum || c == '_'

namespace Look

def holds (previous next : Option Char) : Look → Bool
  | textStart => previous.isNone
  | textEnd => next.isNone
  | lineStart => previous.all (· == '\n')
  | lineEnd => next.all (· == '\n')
  | crLineStart => previous.all (· == '\n') || (previous == some '\r' && next != some '\n')
  | crLineEnd => next.all (· == '\r') || (next == some '\n' && previous != some '\r')
  | wordBoundary => previous.any isWordChar != next.any isWordChar
  | noWordBoundary => previous.any isWordChar == next.any isWordChar
  | wordStart => !previous.any isWordChar && next.any isWordChar
  | wordEnd => previous.any isWordChar && !next.any isWordChar

end Look

namespace Automaton

/-- The nodes to which a character leads, from those before the one that accepts. -/
def targets (a : Automaton) (c : Char) (nodes : List Nat) : List Nat :=
  (nodes.takeWhile (a.node · != .accept)).filterMap fun i =>
    match a.node i with
    | .step s next => if s.contains c then some next else none
    | _ => none

/-- Whether the automaton accepts at the end of a text, from some nodes and after the
character before it. -/
def accepts (a : Automaton) : Option Char → List Nat → List Char → Bool
  | previous, nodes, [] =>
    (a.closure (Look.holds previous none) nodes).any (a.node · == .accept)
  | previous, nodes, c :: rest =>
    a.accepts (some c) (a.targets c (a.closure (Look.holds previous (some c)) nodes)) rest

end Automaton

/-- Whether a text ends as the pattern describes, where earlier beginnings and preferred
alternatives exclude others. -/
def Pattern.endsText (p : Pattern) (s : String) : Bool :=
  let (start, a) := Automaton.ofPattern p
  a.accepts none [start] s.toList

end Tether.Text
