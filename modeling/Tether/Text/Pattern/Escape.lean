import Tether.Json.Token
import Tether.Text.Pattern
import Tether.Text.Pattern.Mode

/-!
# Escapes in patterns

A backslash takes away the meaning of a sign, or gives one to a letter: of a control
character, of a condition, of a kind of character, or of a character by its number in
hexadecimal digits.
-/
namespace Tether.Text.Pattern

/-- What an escape stands for. -/
inductive Escape where
  | character (c : Char)
  | look (l : Look)
  | kind (ranges : CodeRanges)
  deriving DecidableEq, Repr

def escaped? (c : Char) : Option Char :=
  match c with
  | 'a' => some '\x07'
  | 'f' => some '\x0c'
  | 'n' => some '\n'
  | 'r' => some '\r'
  | 't' => some '\t'
  | 'v' => some '\x0b'
  | c => if c.toNat < 128 && !c.isAlphanum then some c else none

def numbered? (n : Nat) : Option Char :=
  if n < 0xd800 || (0xdfff < n && n ≤ CharSet.lastCodePoint) then some (Char.ofNat n) else none

def hexNumber? (m : Mode) : Nat → Nat → List Char → Option (Nat × List Char)
  | 0, n, cs => some (n, cs)
  | digits + 1, n, cs =>
    match m.skip cs with
    | [] => none
    | c :: rest => do hexNumber? m digits (16 * n + (← Json.hexDigit? c)) rest

/-- A character by its number. Two digits are for a byte where bytes are meant. -/
def numberEscape? (m : Mode) (digits : Nat) (cs : List Char) : Option (Escape × List Char) := do
  let (n, rest) ← hexNumber? m digits 0 cs
  if digits = 2 && !m.isOfCharacters && 128 ≤ n then none
  else return (.character (← numbered? n), rest)

/-- A condition on words, which is known for bytes only. -/
def wordLook? (m : Mode) (l : Look) (rest : List Char) : Option (Escape × List Char) :=
  if m.isOfCharacters then none else some (.look l, rest)

/-- A kind of characters, which is known for bytes only. -/
def kindEscape? (m : Mode) (name : String) (rest : List Char) : Option (Escape × List Char) :=
  if m.isOfCharacters then none else (asciiKind? name).map fun rs => (.kind rs, rest)

def escape? (m : Mode) : List Char → Option (Escape × List Char)
  | [] => none
  | 'x' :: rest => numberEscape? m 2 rest
  | 'u' :: rest => numberEscape? m 4 rest
  | 'U' :: rest => numberEscape? m 8 rest
  | 'd' :: rest => kindEscape? m "digit" rest
  | 's' :: rest => kindEscape? m "space" rest
  | 'w' :: rest => kindEscape? m "word" rest
  | 'A' :: rest => some (.look .textStart, rest)
  | 'z' :: rest => some (.look .textEnd, rest)
  | 'b' :: rest => wordLook? m .wordBoundary rest
  | 'B' :: rest => wordLook? m .noWordBoundary rest
  | '<' :: rest => wordLook? m .wordStart rest
  | '>' :: rest => wordLook? m .wordEnd rest
  | c :: rest => (escaped? c).map fun c => (.character c, rest)

end Tether.Text.Pattern
