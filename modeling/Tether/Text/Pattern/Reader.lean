import Tether.Text.Alphanumeric
import Tether.Text.Pattern.SetReader

/-!
# Reading patterns

A pattern is written with the usual signs: `.` for a character, brackets for a set,
parentheses for a group, `|` between alternatives, `*`, `+` and `?` for repetition (with
a further `?` for the lazy one), `^` and `$` for the ends of the text, and backslashes.
After its opening sign, a group may have a name, as in `(?<name>...)`, or a change of
mode, as in `(?i:...)`; a change of mode alone, as in `(?i)`, lasts to the end of the
group around it.

A pattern that is nested too deep is malformed; groups, sets, repetitions, and the
sequences and choices between them all count.
-/
namespace Tether.Text.Pattern

def depthLimit : Nat := 250

/-- A part of a sequence: a pattern, or a change of mode, which cannot be repeated. -/
structure Item where
  pattern : Pattern
  depth : Nat := 0
  isChange : Bool := false
  deriving DecidableEq, Repr

/-- A group that is being read: its mode, its alternatives so far, and the items of the
present one; the latest are first. -/
structure Group where
  mode : Mode
  alternatives : List Item := []
  items : List Item := []
  /-- The number of the group, if it has one. -/
  number : Option Nat := none
  deriving DecidableEq, Repr

namespace Group

def add (g : Group) (i : Item) : Group := { g with items := i :: g.items }

def deepest (is : List Item) : Nat := is.foldl (fun n i => max n i.depth) 0

def current (g : Group) : Item :=
  { pattern := sequence (g.items.reverse.map Item.pattern)
    depth := if 2 ≤ g.items.length then deepest g.items + 1 else deepest g.items }

def branch (g : Group) : Group :=
  { g with alternatives := g.current :: g.alternatives, items := [] }

def content (g : Group) : Item :=
  match g.alternatives with
  | [] => g.current
  | alternatives =>
    let all := (g.current :: alternatives).reverse
    { pattern := choice (all.map Item.pattern), depth := deepest all + 1 }

def item (g : Group) : Item :=
  let content := g.content
  { pattern := match g.number with
      | some n => group n content.pattern
      | none => content.pattern
    depth := content.depth + 1 }

def repeatLast? (g : Group) (atLeastOnce atMostOnce isLazy : Bool) : Option Group :=
  match g.items with
  | [] => none
  | i :: items =>
    if i.isChange then none
    else
      let again :=
        i.pattern.repetition atLeastOnce atMostOnce (isLazy == g.mode.isLazy)
      some { g with items := { pattern := again, depth := i.depth + 1 } :: items }

end Group

/-- The state of reading: the innermost group, those around it, and the names and the
number of the groups that were opened. -/
structure Reading where
  group : Group
  outer : List Group := []
  names : List (List Char) := []
  count : Nat := 0
  deriving DecidableEq, Repr

namespace Reading

def add (r : Reading) (p : Pattern) (depth : Nat) : Reading :=
  { r with group := r.group.add { pattern := p, depth } }

def openGroup (r : Reading) (mode : Mode) (number : Option Nat) : Reading :=
  { r with group := { mode, number }, outer := r.group :: r.outer }

def openNumbered (r : Reading) : Reading :=
  { r.openGroup r.group.mode (some r.count) with count := r.count + 1 }

def close? (r : Reading) : Option Reading :=
  match r.outer with
  | [] => none
  | g :: outer => some { r with group := g.add r.group.item, outer }

def beginsName (c : Char) : Bool := c == '_' || isAlphabetic c

def continuesName (c : Char) : Bool :=
  c == '_' || c == '.' || c == '[' || c == ']' || isAlphanumeric c

/-- Opens a group with a name that no other group has. -/
def openNamed? (r : Reading) (cs : List Char) : Option (Reading × List Char) :=
  let name := cs.takeWhile (· != '>')
  match name, cs.dropWhile (· != '>') with
  | c :: more, '>' :: rest =>
    if beginsName c && more.all continuesName && !r.names.contains name then
      some ({ r.openNumbered with names := name :: r.names }, rest)
    else none
  | _, _ => none

def openAny? (r : Reading) : List Char → Option (Reading × List Char)
  | '?' :: 'P' :: '<' :: rest => r.openNamed? rest
  | '?' :: '<' :: rest => r.openNamed? rest
  | '?' :: rest => do
    let change ← Mode.change? [] r.group.mode rest
    if !change.isClosed then return (r.openGroup change.mode none, change.rest)
    else if change.isEmpty then none
    else
      let group := { r.group with mode := change.mode }
      return ({ r with group := group.add { pattern := empty, isChange := true } }, change.rest)
  | rest => some (r.openNumbered, rest)

def literal? (m : Mode) (c : Char) : Option Pattern :=
  if !m.canName then none
  else if !m.ignoresCase then some (literal [c])
  else if c.isAlpha then some (ofSet (m.charSet (CodeRanges.withBothCases [(c.toNat, c.toNat)])))
  else some (literal [c])

def dot? (m : Mode) : Option Pattern :=
  if !m.isOfCharacters then none
  else if m.dotIsAny then some (set (CharSet.allBut []))
  else if m.hasCarriageReturns then some (set (CharSet.allBut [(0x0a, 0x0a), (0x0d, 0x0d)]))
  else some (set (CharSet.allBut [(0x0a, 0x0a)]))

/-- The condition that a caret or a dollar sign stands for. -/
def edge (m : Mode) (text line crLine : Look) : Pattern :=
  look (if !m.isByLine then text else if m.hasCarriageReturns then crLine else line)

def escapePattern? (m : Mode) : Escape → Option Pattern
  | .character c => literal? m c
  | .look l => some (look l)
  | .kind rs => some (ofSet (m.charSet rs))

/-- A repetition is lazy if a question mark follows. -/
def repeat? (r : Reading) (atLeastOnce atMostOnce : Bool) :
    List Char → Option (Reading × List Char)
  | '?' :: rest => do
    return ({ r with group := ← r.group.repeatLast? atLeastOnce atMostOnce true }, rest)
  | rest => do
    return ({ r with group := ← r.group.repeatLast? atLeastOnce atMostOnce false }, rest)

def sign? (r : Reading) : List Char → Option (Reading × List Char)
  | [] => none
  | '(' :: rest => r.openAny? (r.group.mode.skip rest)
  | ')' :: rest => r.close?.map (·, rest)
  | '|' :: rest => some ({ r with group := r.group.branch }, rest)
  | '[' :: rest => do
    let (found, rest) ← readSet? r.group.mode rest
    return (r.add (ofSet (r.group.mode.charSet found.ranges)) found.depth, rest)
  | '*' :: rest => r.repeat? false false rest
  | '+' :: rest => r.repeat? true false rest
  | '?' :: rest => r.repeat? false true rest
  | '\x7b' :: _ => none
  | '\\' :: rest => do
    let (found, rest) ← escape? r.group.mode rest
    return (r.add (← escapePattern? r.group.mode found) 0, rest)
  | '.' :: rest => do return (r.add (← dot? r.group.mode) 0, rest)
  | '^' :: rest =>
    some (r.add (edge r.group.mode .textStart .lineStart .crLineStart) 0, rest)
  | '$' :: rest => some (r.add (edge r.group.mode .textEnd .lineEnd .crLineEnd) 0, rest)
  | c :: rest => do return (r.add (← literal? r.group.mode c) 0, rest)

/-- Reads all signs of a text. The fuel is greater than its length. -/
def signs? : Nat → Reading → List Char → Option Reading
  | 0, _, _ => none
  | fuel + 1, r, cs =>
    match r.group.mode.skip cs with
    | [] => some r
    | cs => do
      let (r, rest) ← r.sign? cs
      signs? fuel r rest

end Reading

def parse? (s : String) : Option Pattern := do
  let r ← Reading.signs? (s.length + 1) { group := { mode := {} } } s.toList
  if r.outer.isEmpty && r.group.content.depth ≤ depthLimit then some r.group.content.pattern
  else none

end Tether.Text.Pattern
