import Tether.Json.Token
import Tether.Proofs.Text.Blank
import Tether.Proofs.Text.Numeral

/-!
# The texts of tokens

A text is spelled from tokens with any white space around them. Whatever the white space is,
the tokens are found again, as long as no two numbers stand side by side: every other token
shows by its first character that a number before it has ended.
-/
namespace Tether.Json

/-- A character that stands for itself in a string. -/
def IsPlain (c : Char) : Prop := 0x20 ≤ c.toNat ∧ c ≠ '"' ∧ c ≠ '\\'

instance (c : Char) : Decidable (IsPlain c) := inferInstanceAs (Decidable (_ ∧ _))

/-- Whether a string has only such characters can be computed. -/
theorem isPlain_of_all {text : String} (checked : text.toList.all (decide <| IsPlain ·) = true) :
    ∀ c ∈ text.toList, IsPlain c := by
  simpa using checked

def Token.plain (text : String) : Token := .string (text.toList.map .char)

/-- How a token is spelled: a natural number in decimal without needless zeros, and a string
without escapes. -/
inductive Spells : Token → List Char → Prop
  | openBrace : Spells .openBrace ['\x7b']
  | closeBrace : Spells .closeBrace ['\x7d']
  | openBracket : Spells .openBracket ['[']
  | closeBracket : Spells .closeBracket [']']
  | comma : Spells .comma [',']
  | colon : Spells .colon [':']
  | natural (n : Nat) : Spells (.natural n) (Nat.toDigits 10 n)
  | plain (text : String) (plain : ∀ c ∈ text.toList, IsPlain c) :
    Spells (.plain text) ('"' :: (text.toList ++ ['"']))

/-- Nothing but white space, if anything. -/
def Space (s : List Char) : Prop := ∀ c ∈ s, isSpace c = true

theorem Space.append {s t : List Char} (first : Space s) (second : Space t) : Space (s ++ t) :=
  fun c found => (List.mem_append.mp found).elim (first c) (second c)

/-- A text that consists of tokens with white space before each and behind the last. -/
inductive Spelled : List Token → List Char → Prop
  | done (space : List Char) (blank : Space space) : Spelled [] space
  | token {t : Token} {lexeme : List Char} {ts : List Token} {rest : List Char}
    (space : List Char) (blank : Space space) (spells : Spells t lexeme)
    (spelled : Spelled ts rest) : Spelled (t :: ts) (space ++ (lexeme ++ rest))

def Token.isNumber : Token → Bool
  | .natural _ | .number => true
  | _ => false

/-- No two numbers stand side by side. -/
def Apart : List Token → Prop
  | [] => True
  | t :: ts => (t.isNumber = true → ∀ u, ts.head? = some u → u.isNumber = false) ∧ Apart ts

/-- A character that can follow the digits of a number as a part of it. -/
def prolongs (c : Char) : Bool := c.isDigit || c == '.' || c == 'e' || c == 'E'

/-- No number goes on into a text. -/
def Stops (s : List Char) : Prop := ∀ c, s.head? = some c → prolongs c = false

theorem stringBody_cons (c : Char) (rest : List Char) (plain : IsPlain c) :
    stringBody (c :: rest) = (stringBody rest).map fun (ps, r) => (.char c :: ps, r) := by
  obtain ⟨printable, quote, backslash⟩ := plain
  rw [stringBody]
  · rw [if_neg]
    simp [backslash, Nat.not_lt.mpr printable]
  · exact quote
  · exact fun _ _ _ _ _ escape _ => backslash escape
  · exact fun _ _ escape _ => backslash escape

/-- A string without escapes ends at the first quotation mark. -/
theorem stringBody_plain (cs rest : List Char) (plain : ∀ c ∈ cs, IsPlain c) :
    stringBody (cs ++ '"' :: rest) = some (cs.map .char, rest) := by
  induction cs with
  | nil => rfl
  | cons c cs ih =>
    obtain ⟨this, others⟩ := List.forall_mem_cons.mp plain
    rw [List.cons_append, stringBody_cons c _ this, ih others]
    rfl

theorem skipFraction?_of_stops {s : List Char} (stops : Stops s) : skipFraction? s = some s := by
  unfold skipFraction?
  split
  next rest => exact absurd (stops '.' rfl) (by decide)
  next => rfl

theorem skipExponent?_of_stops {s : List Char} (stops : Stops s) : skipExponent? s = some s := by
  unfold skipExponent?
  split
  case h_7 => rfl
  all_goals exact absurd (stops _ rfl) (by decide)

theorem Stops.isDigit {s : List Char} (stops : Stops s) :
    ∀ c, s.head? = some c → c.isDigit = false := by
  intro c front
  have other := stops c front
  simp only [prolongs, Bool.or_eq_false_iff] at other
  exact other.1.1.1

/-- The whole part is all the digits, since it is zero or does not begin with a zero. -/
theorem wholePart?_toDigits (n : Nat) (rest : List Char) (stops : Stops rest) :
    wholePart? (Nat.toDigits 10 n ++ rest) = some (Nat.toDigits 10 n, rest) := by
  by_cases zero : n = 0
  · rw [zero]
    rfl
  · have nonzero := Text.head?_toDigits_ne_zero n zero
    obtain ⟨c, cs, written, first, others⟩ := Text.exists_toDigits_cons n
    rw [written] at nonzero ⊢
    rw [List.cons_append, wholePart?, if_pos first,
      Text.takeWhile_append_of_stop Char.isDigit cs rest others stops.isDigit,
      Text.dropWhile_append_of_stop Char.isDigit cs rest others stops.isDigit]
    rintro rfl
    exact nonzero rfl

/-- Neither a fraction nor an exponent follows, so the number is natural. -/
theorem unsignedNumber?_toDigits (n : Nat) (rest : List Char) (stops : Stops rest) :
    unsignedNumber? (Nat.toDigits 10 n ++ rest) = some (.natural n, rest) := by
  unfold unsignedNumber?
  rw [wholePart?_toDigits n rest stops]
  dsimp only
  rw [skipFraction?_of_stops stops]
  dsimp only
  rw [skipExponent?_of_stops stops]
  dsimp only
  rw [if_pos rfl, Nat.ofDigitChars_ten_toDigits]

theorem token?_of_isDigit (c : Char) (rest : List Char) (digit : c.isDigit = true) :
    token? (c :: rest) = unsignedNumber? (c :: rest) := by
  unfold token?
  split
  case h_12 => rfl
  all_goals
    rename_i front
    obtain ⟨rfl, -⟩ := List.cons.inj front
    exact absurd digit (by decide)

/-- A token is read as far as it was spelled, whatever follows; only a number must not be
continued. -/
theorem token?_of_spells {t : Token} {lexeme : List Char} (spells : Spells t lexeme)
    (rest : List Char) (stops : t.isNumber = true → Stops rest) :
    token? (lexeme ++ rest) = some (t, rest) := by
  cases spells with
  | natural n =>
    have read := unsignedNumber?_toDigits n rest (stops rfl)
    obtain ⟨c, cs, written, first, -⟩ := Text.exists_toDigits_cons n
    rw [written] at read ⊢
    exact (token?_of_isDigit c (cs ++ rest) first).trans read
  | plain text plain =>
    have body := stringBody_plain text.toList rest plain
    rw [List.cons_append, List.append_assoc, List.singleton_append]
    change (stringBody (text.toList ++ '"' :: rest)).map _ = _
    rw [body]
    rfl
  | _ => rfl

theorem prolongs_of_isSpace (c : Char) (space : isSpace c = true) : prolongs c = false := by
  simp only [isSpace, Bool.or_eq_true, beq_iff_eq] at space
  rcases space with ((rfl | rfl) | rfl) | rfl <;> decide

/-- A token begins with what is no white space, and unless it is a number with what ends one. -/
theorem exists_cons_of_spells {t : Token} {lexeme : List Char} (spells : Spells t lexeme) :
    ∃ c cs, lexeme = c :: cs ∧ isSpace c = false ∧ (t.isNumber = false → prolongs c = false) := by
  cases spells with
  | natural n =>
    obtain ⟨c, cs, written, first, -⟩ := Text.exists_toDigits_cons n
    refine ⟨c, cs, written, ?_, fun other => (by cases other)⟩
    cases space : isSpace c with
    | false => rfl
    | true => simpa [prolongs, first] using prolongs_of_isSpace c space
  | _ => exact ⟨_, _, rfl, by decide, fun _ => by decide⟩

theorem stops_cons {c : Char} (ends : prolongs c = false) (rest : List Char) :
    Stops (c :: rest) := by
  intro d front
  obtain rfl : c = d := Option.some.inj front
  exact ends

theorem stops_space_append {space s : List Char} (blank : Space space) (stops : Stops s) :
    Stops (space ++ s) := by
  cases space with
  | nil => exact stops
  | cons c rest => exact stops_cons (prolongs_of_isSpace c (blank c List.mem_cons_self)) _

/-- A number ends before a text that does not begin with another. -/
theorem stops_of_spelled {ts : List Token} {s : List Char} (spelled : Spelled ts s)
    (other : ∀ u, ts.head? = some u → u.isNumber = false) : Stops s := by
  cases spelled with
  | done _ blank =>
    have stops := stops_space_append blank (s := []) (by simp [Stops])
    rwa [List.append_nil] at stops
  | token space blank spells spelled =>
    obtain ⟨c, cs, rfl, -, ends⟩ := exists_cons_of_spells spells
    exact stops_space_append blank (stops_cons (ends (other _ rfl)) _)

/-- By induction on how the text is spelled. Each token takes a character at least, so the
length of the text bounds the calls. -/
theorem tokensWithin_of_spelled {ts : List Token} {s : List Char} (spelled : Spelled ts s)
    (apart : Apart ts) (n : Nat) (bound : s.length < n) : tokensWithin n s = some ts := by
  induction spelled generalizing n with
  | done space blank =>
    cases n with
    | zero => omega
    | succ n =>
      have nothing := Text.dropWhile_append_of_stop isSpace space [] blank (by simp)
      rw [List.append_nil] at nothing
      rw [tokensWithin, nothing]
  | @token t lexeme ts rest space blank spells spelled ih =>
    obtain ⟨ends, apart⟩ := apart
    have read := token?_of_spells spells rest fun number => stops_of_spelled spelled (ends number)
    obtain ⟨c, cs, rfl, visible, -⟩ := exists_cons_of_spells spells
    have skipped : (space ++ (c :: cs ++ rest)).dropWhile isSpace = c :: (cs ++ rest) := by
      refine Text.dropWhile_append_of_stop isSpace space _ blank fun d front => ?_
      obtain rfl : c = d := Option.some.inj front
      exact visible
    cases n with
    | zero => omega
    | succ n =>
      simp only [List.length_append, List.length_cons] at bound
      rw [tokensWithin, skipped]
      dsimp only
      rw [← List.cons_append, read]
      dsimp only
      rw [ih apart n (by omega)]
      rfl

/-- White space between tokens is free. -/
theorem tokens?_of_spelled {ts : List Token} {s : List Char} (spelled : Spelled ts s)
    (apart : Apart ts) : tokens? s = some ts :=
  tokensWithin_of_spelled spelled apart _ (Nat.lt_succ_self _)

theorem Spelled.space_append {ts : List Token} {space s : List Char} (blank : Space space)
    (spelled : Spelled ts s) : Spelled ts (space ++ s) := by
  cases spelled with
  | done other blank' => exact .done _ (blank.append blank')
  | token other blank' spells spelled =>
    rw [← List.append_assoc]
    exact .token _ (blank.append blank') spells spelled

/-- Texts of tokens are put side by side; whether numbers run together is a matter of
`Apart`. -/
theorem Spelled.append {ts us : List Token} {a b : List Char} (first : Spelled ts a)
    (second : Spelled us b) : Spelled (ts ++ us) (a ++ b) := by
  induction first with
  | done space blank => exact second.space_append blank
  | token space blank spells spelled ih =>
    rw [List.append_assoc, List.append_assoc]
    exact .token space blank spells ih

/-- A token without white space around it. -/
theorem Spells.spelled {t : Token} {lexeme : List Char} (spells : Spells t lexeme) :
    Spelled [t] lexeme := by
  have alone := Spelled.token [] (by simp [Space]) spells (.done [] (by simp [Space]))
  simpa using alone

/-- Tokens that can be spelled one by one have a text. -/
theorem exists_spelled (ts : List Token) (each : ∀ t ∈ ts, ∃ lexeme, Spells t lexeme) :
    ∃ s, Spelled ts s := by
  induction ts with
  | nil => exact ⟨[], .done [] (by simp [Space])⟩
  | cons t ts ih =>
    obtain ⟨⟨lexeme, spells⟩, others⟩ := List.forall_mem_cons.mp each
    obtain ⟨rest, spelled⟩ := ih others
    exact ⟨_, .token [] (by simp [Space]) spells spelled⟩

/-- What begins with no number may follow anything. -/
theorem apart_append {ts us : List Token} {t : Token} (first : Apart ts)
    (other : t.isNumber = false) (second : Apart (t :: us)) : Apart (ts ++ t :: us) := by
  induction ts with
  | nil => exact second
  | cons u ts ih =>
    obtain ⟨ends, apart⟩ := first
    refine ⟨fun number v front => ?_, ih apart⟩
    cases ts with
    | nil =>
      obtain rfl : t = v := Option.some.inj front
      exact other
    | cons w ts => exact ends number v front

theorem apart_cons {ts : List Token} {t : Token} (other : t.isNumber = false) (apart : Apart ts) :
    Apart (t :: ts) := by
  refine ⟨fun number => ?_, apart⟩
  rw [other] at number
  cases number

/-- A blank, a tab and a line end around tokens. -/
example : tokens? "[ 10,\t\"a\" ]\n".toList =
    some [.openBracket, .natural 10, .comma, .plain "a", .closeBracket] := by
  decide +kernel

end Tether.Json
