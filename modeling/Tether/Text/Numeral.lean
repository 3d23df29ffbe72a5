/-!
# Unsigned decimal numerals

A numeral is an optional plus sign followed by at least one ASCII digit, and its
value must not exceed a given limit. The digits are read from the left, and the
first fault met decides the error: a foreign character hides an excess that
would only show at a later digit, and an excess hides a foreign character
behind it.
-/
namespace Tether.Text

/-- Why a text is not a numeral of the wanted range. -/
inductive NumeralFault where
  | empty | foreignCharacter | tooLarge
  deriving DecidableEq, Repr

def NumeralFault.message : NumeralFault → String
  | .empty => "cannot parse integer from empty string"
  | .foreignCharacter => "invalid digit found in string"
  | .tooLarge => "number too large to fit in target type"

def digit? (c : Char) : Option Nat :=
  if c.isDigit then some (c.toNat - '0'.toNat) else none

/-- Appends digits to a number already read, never passing the limit. -/
def readDigits (limit : Nat) : Nat → List Char → Except NumeralFault Nat
  | n, [] => .ok n
  | n, c :: rest =>
    match digit? c with
    | none => .error .foreignCharacter
    | some d =>
      if limit < 10 * n + d then .error .tooLarge else readDigits limit (10 * n + d) rest

/-- A numeral with an optional plus sign. The sign alone is not a numeral. -/
def readNumeral (limit : Nat) : List Char → Except NumeralFault Nat
  | [] => .error .empty
  | ['+'] => .error .foreignCharacter
  | '+' :: rest => readDigits limit 0 rest
  | s => readDigits limit 0 s

theorem readDigits_le {limit n m : Nat} {s : List Char} (hn : n ≤ limit)
    (h : readDigits limit n s = .ok m) : m ≤ limit := by
  induction s generalizing n with
  | nil => simp only [readDigits, Except.ok.injEq] at h; omega
  | cons c rest ih =>
    unfold readDigits at h
    split at h
    · contradiction
    · split at h
      · contradiction
      · exact ih (by omega) h

/-- What is read never exceeds the limit. -/
theorem readNumeral_le {limit m : Nat} {s : List Char}
    (h : readNumeral limit s = .ok m) : m ≤ limit := by
  unfold readNumeral at h
  split at h
  · contradiction
  · contradiction
  · exact readDigits_le (Nat.zero_le _) h
  · exact readDigits_le (Nat.zero_le _) h

/-- A port in decimal: a numeral of at most sixteen bits. -/
def readPort (s : List Char) : Except NumeralFault UInt16 :=
  (readNumeral 65535 s).map UInt16.ofNat

end Tether.Text
