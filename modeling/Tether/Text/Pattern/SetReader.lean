import Tether.Text.Pattern.Escape

/-!
# Reading sets in patterns

A set stands in brackets: characters, ranges, kinds with a name as in `[:alpha:]`, and
sets within the set, all joined; `&&`, `--` and `~~` between such members form the
intersection, the difference and the symmetric difference, from the left. A caret in
front negates. A closing bracket and hyphens in front stand for themselves.

How deep a set is nested is counted, since a pattern must not be nested too deep.
-/
namespace Tether.Text.Pattern

inductive SetOperation where
  | intersection | difference | symmetricDifference
  deriving DecidableEq, Repr

def SetOperation.apply (o : SetOperation) (last : Nat) (a b : CodeRanges) : CodeRanges :=
  match o with
  | intersection => CodeRanges.intersection a b
  | difference => CodeRanges.difference last a b
  | symmetricDifference => CodeRanges.symmetricDifference last a b

/-- Ranges and how deep their text is nested. -/
structure Nested where
  ranges : CodeRanges := []
  depth : Nat := 0
  deriving DecidableEq, Repr

/-- Members that were read, with their number and their greatest depth. -/
structure Members where
  ranges : CodeRanges := []
  count : Nat := 0
  depth : Nat := 0
  deriving DecidableEq, Repr

namespace Members

def add (s : Members) (n : Nested) : Members :=
  { ranges := n.ranges ++ s.ranges, count := s.count + 1, depth := max s.depth n.depth }

def addChar (s : Members) (c : Char) : Members := s.add { ranges := [(c.toNat, c.toNat)] }

/-- All members as one; several of them are nested. -/
def nested (s : Members) : Nested :=
  { ranges := s.ranges, depth := if 2 ≤ s.count then s.depth + 1 else s.depth }

end Members

/-- What is not finished while a set is read. -/
inductive SetFrame where
  /-- A set with the members that were before it in the set around it. -/
  | opened (isNegated : Bool) (before : Members)
  /-- An operation with its left side. -/
  | operation (o : SetOperation) (left : Nested)
  deriving DecidableEq, Repr

/-- What is being read: unfinished sets, the innermost first, and members. -/
structure SetState where
  frames : List SetFrame
  members : Members
  deriving DecidableEq, Repr

namespace SetState

/-- The members with the operation before them, if there is one. -/
def operand (m : Mode) (s : SetState) : Nested × List SetFrame :=
  match s.frames with
  | .operation o left :: frames =>
    ({ ranges := o.apply m.last (m.fold left.ranges) (m.fold s.members.ranges)
       depth := max left.depth s.members.nested.depth + 1 },
      frames)
  | frames => (s.members.nested, frames)

def operate (m : Mode) (o : SetOperation) (s : SetState) : SetState :=
  let (left, frames) := s.operand m
  { frames := .operation o left :: frames, members := {} }

/-- Ends the innermost set: either the whole set is finished, or it is a member. -/
def close? (m : Mode) (s : SetState) : Option (Nested ⊕ SetState) :=
  let (found, frames) := s.operand m
  match frames with
  | .opened isNegated before :: frames => do
    let set : Nested := { ranges := ← m.finish? isNegated found.ranges, depth := found.depth + 1 }
    if frames.isEmpty then return .inl set
    else return .inr { frames, members := before.add set }
  | _ => none

end SetState

def leadingHyphens (m : Mode) (s : Members) (cs : List Char) : Members × List Char :=
  match _h : m.skip cs with
  | '-' :: rest => leadingHyphens m (s.addChar '-') rest
  | cs => (s, cs)
termination_by cs.length
decreasing_by
  have := m.length_skip_le cs
  simp only [_h, List.length_cons] at this
  omega

def openSet? (m : Mode) (s : SetState) (cs : List Char) : Option (SetState × List Char) :=
  let cs := m.skip cs
  let isNegated := cs.head? = some '^'
  let cs := if isNegated then cs.tail else cs
  let (members, cs) := leadingHyphens m {} cs
  let (members, cs) :=
    match members.count, cs with
    | 0, ']' :: rest => (members.addChar ']', rest)
    | _, cs => (members, cs)
  if members.count = 0 || m.canName then
    some ({ frames := .opened isNegated s.members :: s.frames, members }, cs)
  else none

/-- A kind by its name, between colons and after the bracket, and the rest. -/
def namedKind? (m : Mode) : List Char → Option (Option CodeRanges × List Char)
  | ':' :: rest =>
    let isNegated := rest.head? = some '^'
    let rest := if isNegated then rest.tail else rest
    match rest.dropWhile (· != ':') with
    | ':' :: ']' :: after => do
      let kind ← asciiKind? (String.ofList (rest.takeWhile (· != ':')))
      return (if m.canName then m.finish? isNegated kind else none, after)
    | _ => none
  | _ => none

def member? (m : Mode) : List Char → Option (Escape × List Char)
  | [] => none
  | '\\' :: rest => escape? m rest
  | c :: rest => some (.character c, rest)

def codePoint? (m : Mode) : Escape → Option Nat
  | .character c =>
    if m.canName && (m.isOfCharacters || c.toNat < 128) then some c.toNat else none
  | _ => none

def memberRanges? (m : Mode) : Escape → Option CodeRanges
  | .kind rs => some rs
  | e => (codePoint? m e).map fun n => [(n, n)]

def range? (m : Mode) (cs : List Char) : Option (CodeRanges × List Char) := do
  let (low, rest) ← member? m cs
  match m.skip rest with
  | [] => none
  | '-' :: after =>
    if m.peek? after = some ']' || m.peek? after = some '-' then
      return (← memberRanges? m low, '-' :: after)
    else
      let (high, rest) ← member? m (m.skip after)
      let a ← codePoint? m low
      let b ← codePoint? m high
      if a ≤ b then return ([(a, b)], rest) else none
  | rest => return (← memberRanges? m low, rest)

/-- Reads the rest of a set. The fuel is at least the length of the text. -/
def setMembers? (m : Mode) : Nat → SetState → List Char → Option (Nested × List Char)
  | 0, _, _ => none
  | fuel + 1, s, cs =>
    match m.skip cs with
    | [] => none
    | '[' :: rest =>
      match namedKind? m rest with
      | some (kind, rest) => do
        setMembers? m fuel { s with members := s.members.add { ranges := ← kind } } rest
      | none => do
        let (s, rest) ← openSet? m s rest
        setMembers? m fuel s rest
    | ']' :: rest => do
      match ← s.close? m with
      | .inl found => return (found, rest)
      | .inr s => setMembers? m fuel s rest
    | '&' :: '&' :: rest => setMembers? m fuel (s.operate m .intersection) rest
    | '-' :: '-' :: rest => setMembers? m fuel (s.operate m .difference) rest
    | '~' :: '~' :: rest => setMembers? m fuel (s.operate m .symmetricDifference) rest
    | cs => do
      let (rs, rest) ← range? m cs
      setMembers? m fuel { s with members := s.members.add { ranges := rs } } rest

def readSet? (m : Mode) (cs : List Char) : Option (Nested × List Char) := do
  let (s, rest) ← openSet? m { frames := [], members := {} } cs
  setMembers? m (cs.length + 1) s rest

end Tether.Text.Pattern
