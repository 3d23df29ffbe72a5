import Tether.Environment.Level
import Tether.Proofs.Text.Numeral

/-!
# Which log level a text asks for

A text denotes a level by digits or by name. Every level that is denoted is read, a number
beyond 64 bits as the largest level, so the order of levels is kept: what denotes at least as
much never lets more messages pass. A variable that is set and denotes no level is warned of
once.
-/
namespace Tether

namespace LogLevel

def ladder : List String := ["trace", "debug", "info", "warning", "error", "fatal"]

/-- The level that a text denotes: the number of its digits, of whatever size, or the place of
a name. -/
inductive Denotes (s : String) : Nat → Prop
  | number (digits : Text.Digits s.toList) : Denotes s (Text.decimal s.toList)
  | name {i : Nat} (named : ladder[i]? = some s) : Denotes s i

theorem findIdx?_names (s : String) (i : Nat) :
    names.findIdx? (· == s) = some i ↔ ladder[i]? = some s := by
  rw [List.findIdx?_eq_some_iff_getElem, List.getElem?_eq_some_iff]
  constructor
  · rintro ⟨inside, found, -⟩
    exact ⟨inside, eq_of_beq found⟩
  · rintro ⟨inside, found⟩
    refine ⟨inside, beq_iff_eq.mpr found, fun j before same => ?_⟩
    -- The first place with the name is the only one.
    have distinct := List.pairwise_iff_getElem.mp (by decide : ladder.Nodup)
    exact distinct j i (by omega) inside before ((eq_of_beq same).trans found.symm)

theorem lt_of_ladder {s : String} {i : Nat} (named : ladder[i]? = some s) : i < 6 :=
  (List.getElem?_eq_some_iff.mp named).1

/-- No name is a number. -/
theorem not_digits_of_ladder {s : String} {i : Nat} (named : ladder[i]? = some s) :
    ¬Text.Digits s.toList :=
  (by decide : ∀ name ∈ ladder, ¬Text.Digits name.toList) s (List.mem_of_getElem? named)

/-- Digits are read as far as there are levels. The only fault the reader can find in them is
that their number is too large. -/
theorem parse?_of_digits (s : String) (digits : Text.Digits s.toList) :
    parse? s = some (min (Text.decimal s.toList) largest) := by
  have numeral := Text.Numeral.plain digits
  unfold parse?
  dsimp only
  rw [if_pos ((Text.digits_iff _).mp digits)]
  split
  next n read =>
    obtain ⟨denoted, fits⟩ := (Text.readNumeral_eq_ok_iff largest s.toList n).mp read
    rw [numeral.unique denoted, Nat.min_eq_left fits]
  next fault failed =>
    have excess : ¬Text.decimal s.toList ≤ largest := fun fits => by
      rw [(Text.readNumeral_eq_ok_iff largest s.toList _).mpr ⟨numeral, fits⟩] at failed
      cases failed
    rw [Nat.min_eq_right (by omega)]

/-- What is no number has to be a name, in exactly its own letters. -/
theorem parse?_of_not_digits (s : String) (other : ¬Text.Digits s.toList) :
    parse? s = names.findIdx? (· == s) := by
  unfold parse?
  dsimp only
  rw [if_neg fun digits => other ((Text.digits_iff _).mpr digits)]

theorem parse?_of_ladder {s : String} {i : Nat} (named : ladder[i]? = some s) :
    parse? s = some i := by
  rw [parse?_of_not_digits s (not_digits_of_ladder named)]
  exact (findIdx?_names s i).mpr named

/-- What denotes a level is read as that level or as the largest. -/
theorem parse?_of_denotes {s : String} {d : Nat} (denotes : Denotes s d) :
    parse? s = some (min d largest) := by
  cases denotes with
  | number digits => exact parse?_of_digits s digits
  | name named =>
    have small := lt_of_ladder named
    rw [parse?_of_ladder named, Nat.min_eq_left (by simp only [largest]; omega)]

/-- With `parse?_of_denotes` this settles every text. -/
theorem parse?_eq_none_iff (s : String) : parse? s = none ↔ ∀ d, ¬Denotes s d := by
  constructor
  · intro rejected d denotes
    rw [parse?_of_denotes denotes] at rejected
    cases rejected
  · intro nothing
    rw [parse?_of_not_digits s fun digits => nothing _ (.number digits)]
    cases found : names.findIdx? (· == s) with
    | none => rfl
    | some i => exact absurd (.name ((findIdx?_names s i).mp found)) (nothing i)

theorem rank_filter (n : Nat) : (filter n).rank = min n 4 := by
  match n with
  | 0 | 1 | 2 | 3 => rfl
  | n + 4 => exact (Nat.min_eq_right (Nat.le_add_left 4 n)).symm

/-- Of two texts the one that denotes at least as much never lets more messages pass, on
whichever sides of the largest level the two are. -/
theorem rank_filter_mono {s t : String} {d e : Nat} (first : Denotes s d) (second : Denotes t e)
    (le : d ≤ e) : ∃ m n, parse? s = some m ∧ parse? t = some n ∧
      (filter m).rank ≤ (filter n).rank := by
  refine ⟨_, _, parse?_of_denotes first, parse?_of_denotes second, ?_⟩
  rw [rank_filter, rank_filter]
  omega

/-- What is too large a number is the largest level, which lets nothing but errors pass. -/
theorem filter_of_excess {s : String} {d : Nat} (denotes : Denotes s d) (excess : largest < d) :
    (parse? s).map filter = some .error := by
  rw [parse?_of_denotes denotes, Nat.min_eq_right (Nat.le_of_lt excess)]
  rfl

/-- How a text is read as a level. -/
structure Reading (s : String) : Prop where
  number : Text.Digits s.toList → parse? s = some (min (Text.decimal s.toList) (UInt64.size - 1))
  zeros : Text.Digits s.toList →
    ∀ k, parse? (String.ofList (List.replicate k '0' ++ s.toList)) = parse? s
  name : ∀ i, ladder[i]? = some s → parse? s = some i
  other : ¬Text.Digits s.toList → s ∉ ladder → parse? s = none

/-- Digits and names are read and anything else is refused; zeros in front of digits change
nothing. -/
theorem reading (s : String) : Reading s where
  number digits := parse?_of_digits s digits
  zeros digits k := by
    rw [parse?_of_digits s digits, parse?_of_digits _ (by simpa using digits.zeros k)]
    simp
  name i named := parse?_of_ladder named
  other letters stranger := (parse?_eq_none_iff s).mpr fun d denotes => by
    cases denotes with
    | number digits => exact letters digits
    | name named => exact stranger (List.mem_of_getElem? named)

end LogLevel

namespace Environment

open LogLevel

variable {σ : Type}

/-- A variable is set to something that is no level. -/
def Rejects (env : Environment) (name : String) : Prop :=
  ∃ value, env.get name = some value ∧ parse? value = none

/-- What is no level counts as not set, and is warned of once. -/
theorem readLevel_of_rejects (env : Environment) (name : String) (w : World σ)
    (rejects : env.Rejects name) :
    ∃ value, env.readLevel name w = (none, w.notify (.logLevelIgnored name value)) := by
  obtain ⟨value, setting, rejected⟩ := rejects
  exact ⟨value, by simp only [readLevel, setting, rejected]⟩

theorem readLevel_of_not_rejects (env : Environment) (name : String) (w : World σ)
    (unrejected : ¬env.Rejects name) : env.readLevel name w = (env.level? name, w) := by
  unfold readLevel level?
  cases setting : env.get name with
  | none => rfl
  | some value =>
    cases level : parse? value with
    | none => exact absurd ⟨value, setting, level⟩ unrejected
    | some n => simp only [level, Option.bind_some]

/-- Reading a level from a variable: what is found, and what is said about it. -/
structure Heeds (env : Environment) (name : String) (w : World σ) : Prop where
  level : (env.readLevel name w).1 = (env.get name).bind parse?
  warned_iff : (∃ n : Notice, n.severity = .warn ∧ (env.readLevel name w).2 = w.notify n) ↔
    env.Rejects name
  silent_iff : (env.readLevel name w).2 = w ↔ ¬env.Rejects name

theorem notify_ne (w : World σ) (n : Notice) : w.notify n ≠ w := by
  intro same
  have longer := congrArg (fun w => w.journal.length) same
  simp [World.notify] at longer

theorem heeds (env : Environment) (name : String) (w : World σ) : env.Heeds name w := by
  by_cases rejects : env.Rejects name
  · obtain ⟨value, read⟩ := readLevel_of_rejects env name w rejects
    obtain ⟨other, setting, rejected⟩ := rejects
    have warned : (env.readLevel name w).2 = w.notify (.logLevelIgnored name value) := by rw [read]
    exact
      { level := by rw [read, setting, Option.bind_some, rejected]
        warned_iff := ⟨fun _ => ⟨other, setting, rejected⟩, fun _ => ⟨_, rfl, warned⟩⟩
        silent_iff := ⟨fun silent => absurd (warned.symm.trans silent) (notify_ne w _),
          fun accepted => absurd ⟨other, setting, rejected⟩ accepted⟩ }
  · have read := readLevel_of_not_rejects env name w rejects
    exact
      { level := by rw [read, level?]
        warned_iff := ⟨fun ⟨n, _, warned⟩ => by
            rw [read] at warned
            exact absurd warned.symm (notify_ne w n),
          fun rejected => absurd rejected rejects⟩
        silent_iff := ⟨fun _ => rejects, fun _ => by rw [read]⟩ }

/-- Texts are read as levels up to the largest and no others are. The order of what they denote
is kept by what passes, a number beyond the largest level lets nothing but errors pass, and a
variable is warned of once just if it is set to what is no level. -/
theorem levels_saturate_in_order :
    (∀ s, Reading s) ∧
    (∀ s t d e, Denotes s d → Denotes t e → d ≤ e → ∃ m n, parse? s = some m ∧ parse? t = some n ∧
      (filter m).rank ≤ (filter n).rank) ∧
    (∀ s d, Denotes s d → UInt64.size ≤ d → (parse? s).map filter = some .error) ∧
    ∀ (env : Environment) (name : String) (w : World σ), env.Heeds name w := by
  refine ⟨reading, fun s t d e first second le => ?_, fun s d denotes excess => ?_, heeds⟩
  · exact rank_filter_mono first second le
  · exact filter_of_excess denotes excess

/-- Twenty zeros and a digit are a small level. -/
example : parse? "000000000000000000004" = some 4 ∧ parse? "18446744073709551616" = some largest ∧
    parse? "+4" = none ∧ parse? "Info" = none := by
  decide +kernel

end Environment
end Tether
