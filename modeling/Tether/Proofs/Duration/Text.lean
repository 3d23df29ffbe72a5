import Tether.Duration.Text
import Tether.Proofs.Text.Blank
import Tether.Proofs.Text.Numeral

/-!
# Durations read back from their text

A duration is shown in one unit: the largest in which it is at least one, with as many decimals
as it takes and no zero behind the last of them. The text shows the duration exactly, so the
count of its nanoseconds can be read off the digits, the place of the point and the unit.
-/
namespace Tether.Duration

/-- The units in which durations are shown. -/
inductive Scale where
  | seconds | millis | micros | nanos
  deriving DecidableEq, Repr

namespace Scale

def all : List Scale := [seconds, millis, micros, nanos]

def symbol : Scale → String
  | seconds => "s"
  | millis => "ms"
  | micros => "µs"
  | nanos => "ns"

/-- How many decimals there are down to a nanosecond. -/
def places : Scale → Nat
  | seconds => 9
  | millis => 6
  | micros => 3
  | nanos => 0

def size (u : Scale) : Nat := 10 ^ u.places

/-- The unit with a given symbol. -/
def named? (symbol : List Char) : Option Scale := all.find? fun u => u.symbol.toList = symbol

@[simp] theorem named?_symbol (u : Scale) : named? u.symbol.toList = some u := by
  cases u <;> decide

theorem isDigit_of_mem_symbol (u : Scale) : ∀ c ∈ u.symbol.toList, c.isDigit = false := by
  have none : u.symbol.toList.all (fun c => !c.isDigit) = true := by
    cases u <;> rfl
  intro c found
  have foreign := List.all_eq_true.mp none c found
  rwa [Bool.not_eq_true'] at foreign

/-- Each unit is a thousand of the next smaller one. -/
theorem thousand_mul_size_le {u v : Scale} (larger : u.size < v.size) : 1000 * u.size ≤ v.size := by
  revert larger
  cases u <;> cases v <;> decide

/-- Less than a thousand of a unit is less than one of any larger unit. -/
theorem lt_of_lt_thousand {u : Scale} {n : Nat} (few : n < 1000 * u.size) :
    ∀ v : Scale, u.size < v.size → n < v.size := by
  intro v larger
  exact Nat.lt_of_lt_of_le few (thousand_mul_size_le larger)

end Scale

/-- Decimals with the point in front of them, if there are any. -/
def pointed : List Char → List Char
  | [] => []
  | ds => '.' :: ds

/-- The text shows a count of nanoseconds: a whole number and decimals of some unit. -/
structure Shows (s : List Char) (n : Nat) (whole fraction : List Char) (u : Scale) : Prop where
  text : s = whole ++ (pointed fraction ++ u.symbol.toList)
  digits : Text.Digits whole
  /-- Only zero begins with a zero. -/
  short : whole.head? = some '0' → whole = ['0']
  decimals : ∀ c ∈ fraction, c.isDigit = true
  stripped : fraction.getLast? ≠ some '0'
  /-- The number of units is exact to the nanosecond. -/
  exact : Text.decimal (whole ++ fraction) * u.size = n * 10 ^ fraction.length
  /-- It is at least one, if any unit is that small. -/
  atLeast : u.size ≤ n ∨ u = .nanos
  largest : ∀ v : Scale, u.size < v.size → n < v.size

/-- What stands behind the whole part: decimals, and the rest. -/
def fractional : List Char → List Char × List Char
  | '.' :: rest => (rest.takeWhile Char.isDigit, rest.dropWhile Char.isDigit)
  | rest => ([], rest)

/-- Reads a count of nanoseconds off a text. -/
def shown? (s : List Char) : Option Nat :=
  let whole := s.takeWhile Char.isDigit
  let (fraction, unit) := fractional (s.dropWhile Char.isDigit)
  (Scale.named? unit).map fun u =>
    Text.decimal (whole ++ fraction) * u.size / 10 ^ fraction.length

/-- Decimals end where the unit begins, since no unit begins with a digit. -/
theorem fractional_pointed (fraction : List Char) (u : Scale)
    (digit : ∀ c ∈ fraction, c.isDigit = true) :
    fractional (pointed fraction ++ u.symbol.toList) = (fraction, u.symbol.toList) := by
  cases fraction with
  | nil => cases u <;> rfl
  | cons d ds =>
    have stop : ∀ c, u.symbol.toList.head? = some c → c.isDigit = false :=
      fun c first => u.isDigit_of_mem_symbol c (List.mem_of_head? first)
    change (((d :: ds) ++ u.symbol.toList).takeWhile Char.isDigit,
      ((d :: ds) ++ u.symbol.toList).dropWhile Char.isDigit) = _
    rw [Text.takeWhile_append_of_stop _ _ _ digit stop,
      Text.dropWhile_append_of_stop _ _ _ digit stop]

/-- Neither a point nor a unit continues the whole part. -/
theorem stop_of_pointed (fraction : List Char) (u : Scale) :
    ∀ c, (pointed fraction ++ u.symbol.toList).head? = some c → c.isDigit = false := by
  intro c first
  cases fraction with
  | nil => exact u.isDigit_of_mem_symbol c (List.mem_of_head? first)
  | cons d ds =>
    cases first
    decide

/-- What a text shows is what is read off it. -/
theorem Shows.read {s whole fraction : List Char} {n : Nat} {u : Scale}
    (h : Shows s n whole fraction u) : shown? s = some n := by
  have stop := stop_of_pointed fraction u
  have power : 0 < 10 ^ fraction.length := Nat.pow_pos (by decide)
  unfold shown?
  rw [h.text, Text.takeWhile_append_of_stop _ _ _ h.digits.digit stop,
    Text.dropWhile_append_of_stop _ _ _ h.digits.digit stop, fractional_pointed fraction u h.decimals]
  simp only [Scale.named?_symbol, Option.map_some, h.exact, Nat.mul_div_cancel _ power]

/-- Whatever is shown, it is shown by digits, a point and a unit. -/
theorem Shows.mem {s whole fraction : List Char} {n : Nat} {u : Scale}
    (h : Shows s n whole fraction u) {c : Char} (found : c ∈ s) :
    c.isDigit = true ∨ c = '.' ∨ c ∈ u.symbol.toList := by
  rw [h.text] at found
  rcases List.mem_append.mp found with digit | rest
  · exact .inl (h.digits.digit c digit)
  · rcases List.mem_append.mp rest with decimal | symbol
    · cases fraction with
      | nil => cases decimal
      | cons d ds =>
        rcases List.mem_cons.mp decimal with point | digit
        · exact .inr (.inl point)
        · exact .inl (h.decimals c digit)
    · exact .inr (.inr symbol)

/-- The digits without the zeros behind them. -/
def stripped (s : List Char) : List Char := (s.reverse.dropWhile (· == '0')).reverse

theorem exists_stripped_append (s : List Char) :
    ∃ k, s = stripped s ++ List.replicate k '0' := by
  have parts := List.takeWhile_append_dropWhile (p := (· == '0')) (l := s.reverse)
  have zeros : s.reverse.takeWhile (· == '0') =
      List.replicate (s.reverse.takeWhile (· == '0')).length '0' := by
    rw [List.eq_replicate_iff]
    exact ⟨rfl, fun c found => eq_of_beq (List.all_eq_true.mp List.all_takeWhile c found)⟩
  refine ⟨(s.reverse.takeWhile (· == '0')).length, ?_⟩
  have whole := congrArg List.reverse parts
  rw [List.reverse_append, List.reverse_reverse, zeros, List.reverse_replicate] at whole
  exact whole.symm

theorem getLast?_stripped (s : List Char) : (stripped s).getLast? ≠ some '0' := by
  intro last
  rw [stripped, List.getLast?_reverse] at last
  have kept := List.head?_dropWhile_not (· == '0') s.reverse
  rw [last] at kept
  simp at kept

theorem mem_of_mem_stripped {s : List Char} {c : Char} (found : c ∈ stripped s) : c ∈ s := by
  rw [stripped, List.mem_reverse] at found
  exact List.mem_reverse.mp (List.dropWhile_subset _ found)

theorem digits_padded (width n : Nat) : Text.Digits (padded width n) :=
  (Text.digits_toDigits n).zeros _

theorem decimal_padded (width n : Nat) : Text.decimal (padded width n) = n := by
  rw [padded, List.leftpad, Text.decimal_zeros, Text.decimal_toDigits]

theorem length_padded (width n : Nat) (positive : 0 < width) (fits : n < 10 ^ width) :
    (padded width n).length = width := by
  have short := (Nat.length_toDigits_le_iff (by decide) positive).mpr fits
  rw [padded, List.length_leftpad, Nat.max_eq_left short]

/-- The decimals that are shown of a number of `width` places. -/
def fraction (width n : Nat) : List Char := stripped (padded width n)

theorem decimals_eq (width n : Nat) : decimals width n = pointed (fraction width n) := by
  unfold decimals pointed fraction stripped
  rfl

/-- Leaving out the zeros behind changes nothing in the place of the other digits. -/
theorem decimal_fraction (width n : Nat) (fits : n < 10 ^ width) :
    Text.decimal (fraction width n) * 10 ^ width = n * 10 ^ (fraction width n).length := by
  obtain ⟨k, parts⟩ := exists_stripped_append (padded width n)
  change padded width n = fraction width n ++ _ at parts
  have value : n = Text.decimal (fraction width n) * 10 ^ k := by
    have read := decimal_padded width n
    rw [parts, Text.decimal_append_zeros] at read
    exact read.symm
  rcases Nat.eq_zero_or_pos width with rfl | positive
  · obtain rfl : n = 0 := by omega
    rfl
  · have length := length_padded width n positive fits
    rw [parts, List.length_append, List.length_replicate] at length
    calc
      Text.decimal (fraction width n) * 10 ^ width =
          Text.decimal (fraction width n) * 10 ^ ((fraction width n).length + k) := by rw [length]
      _ = Text.decimal (fraction width n) * 10 ^ k * 10 ^ (fraction width n).length := by
        rw [Nat.pow_add]
        ac_rfl
      _ = n * 10 ^ (fraction width n).length := by rw [← value]

/-- A whole number of units and a part of less than one more show their count of nanoseconds. -/
theorem shows_inUnit (u : Scale) (n whole part : Nat) (count : n = whole * u.size + part)
    (fits : part < u.size) (atLeast : u.size ≤ n ∨ u = .nanos)
    (largest : ∀ v : Scale, u.size < v.size → n < v.size) :
    Shows (inUnit whole u.places part u.symbol).toList n (Nat.toDigits 10 whole)
      (fraction u.places part) u where
  text := by simp [inUnit, decimals_eq, List.append_assoc]
  digits := Text.digits_toDigits whole
  short zero := by
    by_cases none : whole = 0
    · subst none
      rfl
    · exact absurd zero (Text.head?_toDigits_ne_zero whole none)
  decimals c found := (digits_padded u.places part).digit c (mem_of_mem_stripped found)
  stripped := getLast?_stripped _
  exact := by
    have places := decimal_fraction u.places part fits
    change Text.decimal (fraction u.places part) * u.size = _ at places
    rw [Text.decimal_append, Text.decimal_toDigits, count, Nat.add_mul, Nat.add_mul, places]
    ac_rfl
  atLeast := atLeast
  largest := largest

/-- Every duration is shown exactly, in the largest unit in which it is at least one. -/
theorem exists_shows_text (d : Duration) :
    ∃ whole fraction u, Shows d.text.toList d.toNanos whole fraction u := by
  have bound := d.nanos_lt
  have sum : d.toNanos = d.secs * 1000000000 + d.nanos := rfl
  unfold text
  split
  next some =>
    have least : 1000000000 ≤ d.toNanos := by omega
    refine ⟨_, _, _, shows_inUnit .seconds _ d.secs d.nanos sum bound (.inl least) ?_⟩
    exact fun v larger => absurd larger (by cases v <;> decide)
  next none =>
  have rest : d.toNanos = d.nanos := by omega
  rw [rest]
  split
  next least =>
    have count : d.nanos = d.nanos / 1000000 * 1000000 + d.nanos % 1000000 := by omega
    have fits : d.nanos % 1000000 < 1000000 := by omega
    exact ⟨_, _, _, shows_inUnit .millis _ _ _ count fits (.inl least)
      (Scale.lt_of_lt_thousand bound)⟩
  next few =>
  split
  next least =>
    have count : d.nanos = d.nanos / 1000 * 1000 + d.nanos % 1000 := by omega
    have fits : d.nanos % 1000 < 1000 := by omega
    exact ⟨_, _, _, shows_inUnit .micros _ _ _ count fits (.inl least)
      (Scale.lt_of_lt_thousand (Nat.lt_of_not_le few))⟩
  next few =>
    have count : d.nanos = d.nanos * 1 + 0 := by omega
    exact ⟨_, _, _, shows_inUnit .nanos _ _ _ count (by decide) (.inr rfl)
      (Scale.lt_of_lt_thousand (Nat.lt_of_not_le few))⟩

/-- Reading does not need to know the unit that was chosen: it is in the text. -/
theorem shown?_text (d : Duration) : shown? d.text.toList = some d.toNanos := by
  obtain ⟨whole, fraction, u, shows⟩ := exists_shows_text d
  exact shows.read

/-- The text is on one line. -/
theorem newline_not_mem_text (d : Duration) : '\n' ∉ d.text.toList := by
  obtain ⟨whole, fraction, u, shows⟩ := exists_shows_text d
  intro found
  rcases shows.mem found with digit | point | symbol
  · exact absurd digit (by decide)
  · exact absurd point (by decide)
  · cases u <;> exact absurd symbol (by decide)

/-- Zeros between the point and the other decimals count. -/
example :
    shown? "1.05ms".toList = some 1050000 ∧ shown? "1.5ms".toList = some 1500000 ∧
      shown? "1.000000001s".toList = some 1000000001 ∧ shown? "1s".toList = some 1000000000 := by
  decide

end Tether.Duration
