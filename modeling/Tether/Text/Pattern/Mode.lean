import Tether.Text.Blank
import Tether.Text.CharSet

/-!
# How patterns are read

A pattern is read in a mode, which it can change by letters: `i` ignores case, `m` lets
`^` and `$` hold at lines, `s` lets a dot be a line feed, `U` turns greedy and lazy
around, `u` is for characters rather than bytes, `R` lets a carriage return end a line,
and `x` skips blanks and comments.

Only ASCII is known by kind and case, so a pattern that asks for more than that is
malformed: where case is ignored, only bytes can be named. Bytes must be ASCII, too, as
no others make a text by themselves.
-/
namespace Tether.Text

structure Mode where
  ignoresCase : Bool := false
  isByLine : Bool := false
  dotIsAny : Bool := false
  isLazy : Bool := false
  isOfCharacters : Bool := true
  hasCarriageReturns : Bool := false
  skipsBlanks : Bool := false
  deriving DecidableEq, Repr

namespace Mode

def set? (m : Mode) (on : Bool) : Char → Option Mode
  | 'i' => some { m with ignoresCase := on }
  | 'm' => some { m with isByLine := on }
  | 's' => some { m with dotIsAny := on }
  | 'U' => some { m with isLazy := on }
  | 'u' => some { m with isOfCharacters := on }
  | 'R' => some { m with hasCarriageReturns := on }
  | 'x' => some { m with skipsBlanks := on }
  | _ => none

def last (m : Mode) : Nat := if m.isOfCharacters then CharSet.lastCodePoint else 0xff

/-- Whether a set can name characters: those that are the same but for case are known
among bytes only. -/
def canName (m : Mode) : Bool := !(m.ignoresCase && m.isOfCharacters)

/-- Ranges with regard to case. A set that cannot name characters holds all or none, and
so there is nothing to add. -/
def fold (m : Mode) (rs : CodeRanges) : CodeRanges :=
  if m.ignoresCase && !m.isOfCharacters then CodeRanges.withBothCases rs
  else CodeRanges.normalize rs

/-- The ranges of a finished set, for its complement if it is negated. -/
def finish? (m : Mode) (isNegated : Bool) (rs : CodeRanges) : Option CodeRanges :=
  let rs := if isNegated then CodeRanges.complement m.last (m.fold rs) else m.fold rs
  if m.isOfCharacters || rs.all (·.2 < 128) then some rs else none

def charSet (m : Mode) (rs : CodeRanges) : CharSet :=
  { ranges := rs, isOfBytes := !m.isOfCharacters }

/-- What remains after blanks and comments, which go to the end of a line. -/
def afterBlanks (inComment : Bool) : List Char → List Char
  | [] => []
  | c :: rest =>
    if inComment then afterBlanks (c != '\n') rest
    else if isBlank c then afterBlanks false rest
    else if c = '#' then afterBlanks true rest
    else c :: rest

/-- Readers of a pattern recurse on what remains, so this must not grow. -/
theorem length_afterBlanks_le (inComment : Bool) (cs : List Char) :
    (afterBlanks inComment cs).length ≤ cs.length := by
  fun_induction afterBlanks inComment cs <;> simp_all <;> omega

/-- The text from the next character that counts. -/
def skip (m : Mode) (cs : List Char) : List Char :=
  if m.skipsBlanks then afterBlanks false cs else cs

/-- Skipping never lengthens a text. -/
theorem length_skip_le (m : Mode) (cs : List Char) : (m.skip cs).length ≤ cs.length := by
  unfold skip
  split
  · exact length_afterBlanks_le false cs
  · exact Nat.le_refl _

/-- The next character that counts, as it is seen from the one before: of a comment, no
more than its sign is passed over. -/
def peek? (m : Mode) (cs : List Char) : Option Char :=
  if m.skipsBlanks then
    match cs.dropWhile isBlank with
    | '#' :: rest => (rest.dropWhile isBlank).head?
    | cs => cs.head?
  else cs.head?

/-- A mode read from letters up to a colon or a closing bracket. -/
structure Change where
  mode : Mode
  isEmpty : Bool
  isClosed : Bool
  rest : List Char
  deriving DecidableEq, Repr

/-- Reads letters that change a mode; each may occur once, and so may the minus sign that
turns off what follows it, but not at the end. -/
def change? (seen : List Char) : Mode → List Char → Option Change
  | _, [] => none
  | m, c :: rest =>
    if c = ':' || c = ')' then
      if seen.head? = some '-' then none
      else some { mode := m, isEmpty := seen.isEmpty, isClosed := c = ')', rest }
    else if seen.contains c then none
    else if c = '-' then change? (c :: seen) m rest
    else do change? (c :: seen) (← m.set? (!seen.contains '-') c) rest

end Mode
end Tether.Text
