import Mathlib.Algebra.Group.Nat.Defs
import Tether.Text.Numeral

/-!
# Numerals and the numbers they denote

A numeral denotes the decimal value of its digits, however many zeros lead them. The reader
gives exactly this number if it is within the limit and fails on every other text. It gives
up at the first digit that exceeds the limit, and never too early, since further digits can
only make a number larger.
-/
namespace Tether.Text

/-- At least one ASCII digit, and nothing else. -/
structure Digits (s : List Char) : Prop where
  nonempty : s ≠ []
  digit : ∀ c ∈ s, c.isDigit = true

/-- The number that digits denote in the decimal system. -/
def decimal (s : List Char) : Nat := Nat.ofDigitChars 10 s 0

/-- A numeral with its number: digits, behind a plus sign or not. -/
inductive Numeral : List Char → Nat → Prop
  | plain {s : List Char} (digits : Digits s) : Numeral s (decimal s)
  | signed {s : List Char} (digits : Digits s) : Numeral ('+' :: s) (decimal s)

theorem digits_iff (s : List Char) : Digits s ↔ (!s.isEmpty && s.all Char.isDigit) = true := by
  rw [Bool.and_eq_true, Bool.not_eq_true', List.isEmpty_eq_false_iff, List.all_eq_true]
  exact ⟨fun digits => ⟨digits.nonempty, digits.digit⟩, fun checked => ⟨checked.1, checked.2⟩⟩

instance (s : List Char) : Decidable (Digits s) := decidable_of_iff _ (digits_iff s).symm

theorem digit?_of_isDigit {c : Char} (h : c.isDigit = true) :
    digit? c = some (c.toNat - '0'.toNat) :=
  if_pos h

theorem digit?_of_not_isDigit {c : Char} (h : ¬c.isDigit = true) : digit? c = none :=
  if_neg h

/-- More digits never make a smaller number. -/
theorem le_ofDigitChars (s : List Char) (n : Nat) : n ≤ Nat.ofDigitChars 10 s n := by
  induction s generalizing n with
  | nil => exact Nat.le_refl n
  | cons c rest ih =>
    rw [Nat.ofDigitChars_cons]
    have more := ih (10 * n + (c.toNat - '0'.toNat))
    omega

theorem readDigits_eq_ok_iff (limit n m : Nat) (s : List Char) (within : n ≤ limit) :
    readDigits limit n s = .ok m ↔
      (∀ c ∈ s, c.isDigit = true) ∧ Nat.ofDigitChars 10 s n = m ∧ m ≤ limit := by
  induction s generalizing n with
  | nil =>
    rw [readDigits, Nat.ofDigitChars_nil, Except.ok.injEq]
    constructor
    · rintro rfl
      exact ⟨by simp, rfl, within⟩
    · exact fun read => read.2.1
  | cons c rest ih =>
    rw [readDigits, Nat.ofDigitChars_cons]
    by_cases digit : c.isDigit = true
    · rw [digit?_of_isDigit digit]
      dsimp only
      split
      next excess =>
        -- The digits that follow cannot bring the number back below the limit.
        have more := le_ofDigitChars rest (10 * n + (c.toNat - '0'.toNat))
        constructor
        · intro failed
          cases failed
        · rintro ⟨-, exact, fits⟩
          omega
      next fits =>
        rw [ih _ (by omega), List.forall_mem_cons]
        simp only [digit, true_and]
    · rw [digit?_of_not_isDigit digit, List.forall_mem_cons]
      refine ⟨fun failed => (by cases failed), fun read => ?_⟩
      exact absurd read.1.1 digit

theorem readDigits_zero_eq_ok_iff (limit n : Nat) (s : List Char) (nonempty : s ≠ []) :
    readDigits limit 0 s = .ok n ↔ Digits s ∧ decimal s = n ∧ n ≤ limit := by
  rw [readDigits_eq_ok_iff limit 0 n s (Nat.zero_le limit)]
  exact ⟨fun ⟨digit, read⟩ => ⟨⟨nonempty, digit⟩, read⟩,
    fun ⟨digits, read⟩ => ⟨digits.digit, read⟩⟩

theorem numeral_plus_iff (s : List Char) (n : Nat) :
    Numeral ('+' :: s) n ↔ Digits s ∧ decimal s = n := by
  constructor
  · intro numeral
    cases numeral with
    | plain digits => exact absurd (digits.digit '+' List.mem_cons_self) (by decide)
    | signed digits => exact ⟨digits, rfl⟩
  · rintro ⟨digits, rfl⟩
    exact .signed digits

theorem numeral_iff_of_not_plus (s : List Char) (n : Nat) (unsigned : s.head? ≠ some '+') :
    Numeral s n ↔ Digits s ∧ decimal s = n := by
  constructor
  · intro numeral
    cases numeral with
    | plain digits => exact ⟨digits, rfl⟩
    | signed digits => exact absurd rfl unsigned
  · rintro ⟨digits, rfl⟩
    exact .plain digits

/-- What is read is the number of a numeral, and every number up to the limit is read. -/
theorem readNumeral_eq_ok_iff (limit : Nat) (s : List Char) (n : Nat) :
    readNumeral limit s = .ok n ↔ Numeral s n ∧ n ≤ limit := by
  unfold readNumeral
  split
  next =>
    rw [numeral_iff_of_not_plus [] n (by decide)]
    exact ⟨fun failed => (by cases failed), fun read => absurd rfl read.1.1.nonempty⟩
  next =>
    rw [numeral_plus_iff]
    exact ⟨fun failed => (by cases failed), fun read => absurd rfl read.1.1.nonempty⟩
  next rest alone =>
    have nonempty : rest ≠ [] := fun empty => alone (by rw [empty])
    rw [readDigits_zero_eq_ok_iff limit n rest nonempty, numeral_plus_iff, and_assoc]
  next nonempty _ plain =>
    have unsigned : s.head? ≠ some '+' := by
      intro plus
      obtain ⟨rest, signed⟩ := List.head?_eq_some_iff.mp plus
      exact plain rest signed
    rw [readDigits_zero_eq_ok_iff limit n s nonempty, numeral_iff_of_not_plus s n unsigned,
      and_assoc]

/-- A numeral has one number. -/
theorem Numeral.unique {s : List Char} {n m : Nat} (first : Numeral s n) (second : Numeral s m) :
    n = m := by
  have read := (readNumeral_eq_ok_iff (max n m) s n).mpr ⟨first, Nat.le_max_left n m⟩
  have again := (readNumeral_eq_ok_iff (max n m) s m).mpr ⟨second, Nat.le_max_right n m⟩
  exact Except.ok.inj (read.symm.trans again)

theorem readPort_eq_ok_iff (s : List Char) (p : UInt16) :
    readPort s = .ok p ↔ Numeral s p.toNat := by
  have bound := p.toNat_lt
  have read := readNumeral_eq_ok_iff 65535 s
  unfold readPort
  cases numeral : readNumeral 65535 s with
  | ok n =>
    have fits := readNumeral_le numeral
    have denoted := ((read n).mp numeral).1
    rw [Except.map, Except.ok.injEq]
    constructor
    · rintro rfl
      rwa [UInt16.toNat_ofNat_of_lt' (Nat.lt_succ_of_le fits)]
    · intro port
      rw [denoted.unique port]
      exact UInt16.ofNat_toNat
  | error fault =>
    refine ⟨fun failed => (by cases failed), fun port => ?_⟩
    have accepted := (read p.toNat).mpr ⟨port, by omega⟩
    rw [numeral] at accepted
    cases accepted

theorem digits_toDigits (n : Nat) : Digits (Nat.toDigits 10 n) where
  nonempty := Nat.toDigits_ne_nil
  digit _ found := Nat.isDigit_of_mem_toDigits (by decide) (by decide) found

theorem exists_toDigits_cons (n : Nat) : ∃ c cs, Nat.toDigits 10 n = c :: cs ∧
    c.isDigit = true ∧ ∀ d ∈ cs, d.isDigit = true := by
  have digits := (digits_toDigits n).digit
  cases written : Nat.toDigits 10 n with
  | nil => exact absurd written Nat.toDigits_ne_nil
  | cons c cs =>
    rw [written, List.forall_mem_cons] at digits
    exact ⟨c, cs, rfl, digits⟩

@[simp] theorem decimal_toDigits (n : Nat) : decimal (Nat.toDigits 10 n) = n :=
  Nat.ofDigitChars_ten_toDigits

/-- Only zero begins with a zero. -/
theorem head?_toDigits_ne_zero (n : Nat) (positive : n ≠ 0) :
    (Nat.toDigits 10 n).head? ≠ some '0' := by
  induction n using Nat.strongRecOn with
  | ind n ih =>
    rw [Nat.toDigits_eq_if (by decide)]
    split
    next small =>
      have digits : ∀ d, d < 10 → d ≠ 0 → [Nat.digitChar d].head? ≠ some '0' := by decide
      exact digits n small positive
    next large =>
      have shorter := ih (n / 10) (by omega) (by omega)
      obtain ⟨c, cs, written, -⟩ := exists_toDigits_cons (n / 10)
      rw [written] at shorter ⊢
      exact shorter

/-- Digits behind others are of lower places. -/
theorem decimal_append (s t : List Char) :
    decimal (s ++ t) = decimal s * 10 ^ t.length + decimal t := by
  rw [decimal, Nat.ofDigitChars_append, Nat.ofDigitChars_eq_ofDigitChars_zero, Nat.mul_comm]
  rfl

/-- Each zero behind is a factor of ten. -/
@[simp] theorem decimal_append_zeros (s : List Char) (k : Nat) :
    decimal (s ++ List.replicate k '0') = decimal s * 10 ^ k := by
  simp [decimal, Nat.ofDigitChars_append, Nat.mul_comm]

/-- Zeros in front are digits. -/
theorem Digits.zeros {s : List Char} (digits : Digits s) (k : Nat) :
    Digits (List.replicate k '0' ++ s) where
  nonempty := List.append_ne_nil_of_right_ne_nil _ digits.nonempty
  digit c found := by
    rcases List.mem_append.mp found with zero | digit
    · rw [List.eq_of_mem_replicate zero]
      decide
    · exact digits.digit c digit

/-- Zeros in front change no number. -/
@[simp] theorem decimal_zeros (k : Nat) (s : List Char) :
    decimal (List.replicate k '0' ++ s) = decimal s := by
  rw [decimal, Nat.ofDigitChars_append, Nat.ofDigitChars_replicate_zero, Nat.mul_zero, decimal]

end Tether.Text
