/-!
# The tokens of a JSON text

Blanks, tabs and line ends between tokens are skipped. Strings may not hold
control characters. A `\u` escape stands for a unit of sixteen bits and is kept
as such: whether two of them make a character is only decided where the text of
the string matters. Natural numbers keep their value; of other numbers it is
enough to know that they are well formed.

The tokens are those of the format that serde_json documents, a third-party library.
-/
namespace Tether.Json

/-- A part of a string: a character, or a unit of sixteen bits given by number. -/
inductive Piece where
  | char (c : Char)
  | unit (n : Nat)
  deriving DecidableEq, Repr

inductive Token where
  | openBrace | closeBrace | openBracket | closeBracket | comma | colon
  | null | bool (b : Bool)
  | natural (n : Nat)
  | number
  | string (pieces : List Piece)
  deriving DecidableEq, Repr

/-- The white space of the format: blank, tab, line feed, carriage return. -/
def isSpace (c : Char) : Bool := c == ' ' || c == '\t' || c == '\n' || c == '\r'

def hexDigit? (c : Char) : Option Nat :=
  if '0' ≤ c ∧ c ≤ '9' then some (c.toNat - '0'.toNat)
  else if 'a' ≤ c ∧ c ≤ 'f' then some (c.toNat - 'a'.toNat + 10)
  else if 'A' ≤ c ∧ c ≤ 'F' then some (c.toNat - 'A'.toNat + 10)
  else none

def hexUnit? (a b c d : Char) : Option Nat :=
  match hexDigit? a, hexDigit? b, hexDigit? c, hexDigit? d with
  | some a, some b, some c, some d => some (((a * 16 + b) * 16 + c) * 16 + d)
  | _, _, _, _ => none

def shortEscape? : Char → Option Char
  | '"' => some '"'
  | '\\' => some '\\'
  | '/' => some '/'
  | 'b' => some '\x08'
  | 'f' => some '\x0c'
  | 'n' => some '\n'
  | 'r' => some '\r'
  | 't' => some '\t'
  | _ => none

/-- The pieces of a string up to its closing quotation mark, and what follows. -/
def stringBody : List Char → Option (List Piece × List Char)
  | [] => none
  | '"' :: rest => some ([], rest)
  | '\\' :: 'u' :: a :: b :: c :: d :: rest =>
    match hexUnit? a b c d with
    | none => none
    | some n => (stringBody rest).map fun (ps, r) => (.unit n :: ps, r)
  | '\\' :: c :: rest =>
    match shortEscape? c with
    | none => none
    | some c => (stringBody rest).map fun (ps, r) => (.char c :: ps, r)
  | c :: rest =>
    if c.toNat < 0x20 || c == '\\' then none
    else (stringBody rest).map fun (ps, r) => (.char c :: ps, r)

/-- At least one digit is dropped. -/
def skipDigits? (s : List Char) : Option (List Char) :=
  match s with
  | c :: rest => if c.isDigit then some (rest.dropWhile Char.isDigit) else none
  | [] => none

/-- Drops a fraction, if there is one; `none` if it has no digits. -/
def skipFraction? : List Char → Option (List Char)
  | '.' :: rest => skipDigits? rest
  | s => some s

/-- Drops an exponent, if there is one; `none` if it has no digits. -/
def skipExponent? : List Char → Option (List Char)
  | 'e' :: '+' :: rest | 'e' :: '-' :: rest | 'E' :: '+' :: rest | 'E' :: '-' :: rest =>
    skipDigits? rest
  | 'e' :: rest | 'E' :: rest => skipDigits? rest
  | s => some s

/-- The digits of the whole part: a single zero, or digits that start with another. -/
def wholePart? : List Char → Option (List Char × List Char)
  | '0' :: rest => some (['0'], rest)
  | c :: rest =>
    if c.isDigit then some (c :: rest.takeWhile Char.isDigit, rest.dropWhile Char.isDigit)
    else none
  | [] => none

/-- A number without its sign, and what follows. -/
def unsignedNumber? (s : List Char) : Option (Token × List Char) :=
  match wholePart? s with
  | none => none
  | some (digits, rest) =>
    match skipFraction? rest with
    | none => none
    | some fractionless =>
      match skipExponent? fractionless with
      | none => none
      | some after =>
        if after.length = rest.length then some (.natural (Nat.ofDigitChars 10 digits 0), after)
        else some (.number, after)

/-- The token at the front of a text that starts with no white space. -/
def token? : List Char → Option (Token × List Char)
  | '\x7b' :: rest => some (.openBrace, rest)
  | '\x7d' :: rest => some (.closeBrace, rest)
  | '[' :: rest => some (.openBracket, rest)
  | ']' :: rest => some (.closeBracket, rest)
  | ',' :: rest => some (.comma, rest)
  | ':' :: rest => some (.colon, rest)
  | 'n' :: 'u' :: 'l' :: 'l' :: rest => some (.null, rest)
  | 't' :: 'r' :: 'u' :: 'e' :: rest => some (.bool true, rest)
  | 'f' :: 'a' :: 'l' :: 's' :: 'e' :: rest => some (.bool false, rest)
  | '"' :: rest => (stringBody rest).map fun (ps, r) => (.string ps, r)
  | '-' :: rest => (unsignedNumber? rest).map fun (_, r) => (.number, r)
  | s => unsignedNumber? s

def tokensWithin : Nat → List Char → Option (List Token)
  | 0, _ => none
  | n + 1, s =>
    match s.dropWhile isSpace with
    | [] => some []
    | front =>
      match token? front with
      | none => none
      | some (t, rest) => (tokensWithin n rest).map (t :: ·)

/-- All tokens of a text: each takes at least one character. -/
def tokens? (s : List Char) : Option (List Token) := tokensWithin (s.length + 1) s

end Tether.Json
