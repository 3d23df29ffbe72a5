import Tether.Proofs.Duration.Exact
import Tether.Proofs.Json.Value
import Tether.Proofs.TimeInfo.Sum
import Tether.TimeInfo.Json

/-!
# Time information read back from JSON

A text of time information is one of many: objects have their members in any order, arrays
stand for objects, white space is free, and the nanoseconds of a duration may be more than a
second. All texts of the same parts are read as the same time information, whose durations
are exact and in normal form, or are all refused because some duration is too long. What is
written is one of these texts, so it is read back as it was.
-/
namespace Tether

open Json (Token Value Denotes Apart Spelled Spells)

/-- How a duration may be written. -/
inductive Duration.Form where
  | array | secsFirst | nanosFirst
  deriving DecidableEq, Repr

namespace Duration

def Form.tokens (secs nanos : Nat) : Form → List Token
  | array => [.openBracket, .natural secs, .comma, .natural nanos, .closeBracket]
  | secsFirst =>
    [.openBrace, .plain "secs", .colon, .natural secs, .comma,
      .plain "nanos", .colon, .natural nanos, .closeBrace]
  | nanosFirst =>
    [.openBrace, .plain "nanos", .colon, .natural nanos, .comma,
      .plain "secs", .colon, .natural secs, .closeBrace]

def Form.value (secs nanos : Nat) : Form → Value
  | array => .array [.natural secs, .natural nanos]
  | secsFirst => .object [(some "secs", .natural secs), (some "nanos", .natural nanos)]
  | nanosFirst => .object [(some "nanos", .natural nanos), (some "secs", .natural secs)]

/-- A number as a part of a duration. -/
def part (n : Nat) : List Token × Value := ([.natural n], .natural n)

theorem Form.denotes (secs nanos : Nat) (form : Form) :
    Denotes (form.tokens secs nanos) (form.value secs nanos) := by
  have numbers : ∀ n, Denotes (part n).1 (part n).2 := Json.denotes_natural
  cases form with
  | array =>
    exact Json.denotes_array [part secs, part nanos] (List.cons_ne_nil _ _) (by simp [numbers])
  | secsFirst =>
    exact Json.denotes_object [("secs", part secs), ("nanos", part nanos)]
      (List.cons_ne_nil _ _) (by simp [numbers])
  | nanosFirst =>
    exact Json.denotes_object [("nanos", part nanos), ("secs", part secs)]
      (List.cons_ne_nil _ _) (by simp [numbers])

theorem Form.apart (secs nanos : Nat) (form : Form) : Apart (form.tokens secs nanos) := by
  cases form <;> simp [tokens, Apart, Token.isNumber, Token.plain]

theorem spells_name (name : String) (plain : ∀ c ∈ name.toList, Json.IsPlain c) :
    ∃ lexeme, Spells (.plain name) lexeme :=
  ⟨_, .plain name plain⟩

theorem plain_secs : ∀ c ∈ "secs".toList, Json.IsPlain c :=
  Json.isPlain_of_all (by decide +kernel)

theorem plain_nanos : ∀ c ∈ "nanos".toList, Json.IsPlain c :=
  Json.isPlain_of_all (by decide +kernel)

theorem Form.spells (secs nanos : Nat) (form : Form) :
    ∀ t ∈ form.tokens secs nanos, ∃ lexeme, Spells t lexeme := by
  have seconds := spells_name "secs" plain_secs
  have rest := spells_name "nanos" plain_nanos
  cases form <;> simp only [tokens, List.forall_mem_cons]
  case array =>
    exact ⟨⟨_, .openBracket⟩, ⟨_, .natural secs⟩, ⟨_, .comma⟩, ⟨_, .natural nanos⟩,
      ⟨_, .closeBracket⟩, by simp⟩
  case secsFirst =>
    exact ⟨⟨_, .openBrace⟩, seconds, ⟨_, .colon⟩, ⟨_, .natural secs⟩, ⟨_, .comma⟩, rest,
      ⟨_, .colon⟩, ⟨_, .natural nanos⟩, ⟨_, .closeBrace⟩, by simp⟩
  case nanosFirst =>
    exact ⟨⟨_, .openBrace⟩, rest, ⟨_, .colon⟩, ⟨_, .natural nanos⟩, ⟨_, .comma⟩, seconds,
      ⟨_, .colon⟩, ⟨_, .natural secs⟩, ⟨_, .closeBrace⟩, by simp⟩

theorem ofJson?_value (secs nanos : Nat) (form : Form) :
    ofJson? (form.value secs nanos) = ofWritten? secs nanos := by
  cases form <;> rfl

/-- Numbers of 64 and 32 bits are a duration if they are short enough together. -/
theorem ofWritten?_eq (secs : UInt64) (nanos : UInt32) :
    ofWritten? secs.toNat nanos.toNat = ofParts? secs.toNat nanos.toNat :=
  if_pos ⟨secs.toNat_lt, nanos.toNat_lt⟩

end Duration

namespace TimeInfo

def Field.name : Field → String
  | encode => "encode_duration"
  | decode => "decode_duration"
  | commit => "commit_duration"
  | execution => "execution_duration"

theorem Field.name_beq (f g : Field) : (some f.name == some g.name) = (f == g) := by
  cases f <;> cases g <;> decide

theorem Field.plain_name (f : Field) : ∀ c ∈ f.name.toList, Json.IsPlain c := by
  cases f <;> exact Json.isPlain_of_all (by decide +kernel)

/-- How time information may be written: its durations in an array, or with their names in an
object, in any order. -/
inductive Form where
  | array
  | object (order : List Field) (every : order.Perm Field.all)

def Form.tokens (durations : Field → List Token) : Form → List Token
  | array => .openBracket :: (Json.separated (Field.all.map durations) ++ [.closeBracket])
  | object order _ =>
    .openBrace :: (Json.separated (order.map fun f => .plain f.name :: .colon :: durations f) ++
      [.closeBrace])

def Form.value (durations : Field → Value) : Form → Value
  | array => .array (Field.all.map durations)
  | object order _ => .object (order.map fun f => (some f.name, durations f))

theorem Form.denotes (tokens : Field → List Token) (values : Field → Value)
    (denote : ∀ f, Denotes (tokens f) (values f)) (form : Form) :
    Denotes (form.tokens tokens) (form.value values) := by
  cases form with
  | array =>
    exact Json.denotes_array (Field.all.map fun f => (tokens f, values f)) (List.cons_ne_nil _ _)
      (by simp [denote])
  | object order every =>
    have any : order.map (fun f => (f.name, tokens f, values f)) ≠ [] := by
      intro none
      rw [List.map_eq_nil_iff] at none
      rw [none] at every
      exact absurd every.length_eq (by decide)
    have denotes := Json.denotes_object _ any (by simp [denote])
    simpa [Form.tokens, Form.value, Json.Member.tokens, Function.comp_def] using denotes

theorem Form.apart (tokens : Field → List Token) (apart : ∀ f, Apart (tokens f)) (form : Form) :
    Apart (form.tokens tokens) := by
  cases form with
  | array =>
    exact Json.apart_cons rfl (Json.apart_separated _ (by simp [apart]) .closeBracket rfl)
  | object order every =>
    refine Json.apart_cons rfl (Json.apart_separated _ (fun piece found => ?_) .closeBrace rfl)
    obtain ⟨f, -, rfl⟩ := List.mem_map.mp found
    exact Json.apart_cons rfl (Json.apart_cons rfl (apart f))

theorem Form.spells (tokens : Field → List Token)
    (each : ∀ f, ∀ t ∈ tokens f, ∃ lexeme, Spells t lexeme) (form : Form) :
    ∀ t ∈ form.tokens tokens, ∃ lexeme, Spells t lexeme := by
  intro t found
  cases form with
  | array =>
    rw [Form.tokens, List.mem_cons, List.mem_append, List.mem_singleton] at found
    rcases found with rfl | inner | rfl
    · exact ⟨_, .openBracket⟩
    · rcases Json.mem_separated inner with rfl | ⟨piece, inside, there⟩
      · exact ⟨_, .comma⟩
      · obtain ⟨f, -, rfl⟩ := List.mem_map.mp inside
        exact each f t there
    · exact ⟨_, .closeBracket⟩
  | object order every =>
    rw [Form.tokens, List.mem_cons, List.mem_append, List.mem_singleton] at found
    rcases found with rfl | inner | rfl
    · exact ⟨_, .openBrace⟩
    · rcases Json.mem_separated inner with rfl | ⟨piece, inside, there⟩
      · exact ⟨_, .comma⟩
      · obtain ⟨f, -, rfl⟩ := List.mem_map.mp inside
        rw [List.mem_cons, List.mem_cons] at there
        rcases there with rfl | rfl | there
        · exact Duration.spells_name f.name f.plain_name
        · exact ⟨_, .colon⟩
        · exact each f t there
    · exact ⟨_, .closeBrace⟩

/-- Each name is there once, wherever it stands. -/
theorem member?_of_order (order : List Field) (every : order.Perm Field.all)
    (values : Field → Value) (f : Field) :
    member? f.name (order.map fun g => (some g.name, values g)) = Duration.ofJson? (values f) := by
  have once : order.count f = 1 := by
    rw [every.count_eq]
    cases f <;> rfl
  have found : order.filter (fun g => some g.name == some f.name) = [f] := by
    simp only [Field.name_beq]
    rw [List.filter_beq, once]
    rfl
  rw [member?, List.filter_map]
  simp only [Function.comp_def, found, List.map_cons, List.map_nil]

theorem ofJson?_value (values : Field → Value) (form : Form) :
    ofJson? (form.value values) =
      ofParts? (Duration.ofJson? (values .encode)) (Duration.ofJson? (values .decode))
        (Duration.ofJson? (values .commit)) (Duration.ofJson? (values .execution)) := by
  cases form with
  | array => rfl
  | object order every =>
    have named : (order.map fun f => (some f.name, values f)).all (fun m => m.1.isSome) = true := by
      simp
    have members := member?_of_order order every values
    rw [Form.value, ofJson?, if_pos named]
    exact congr (congr (congr (congrArg ofParts? (members .encode)) (members .decode))
      (members .commit)) (members .execution)

/-- Seconds and nanoseconds of each field, as wide as the format has them. -/
structure Parts where
  secs : Field → UInt64
  nanos : Field → UInt32

namespace Parts

def length (p : Parts) (f : Field) : Nat :=
  (p.secs f).toNat * nanosPerSecond + (p.nanos f).toNat

def tokens (p : Parts) (form : Form) (inner : Field → Duration.Form) : List Token :=
  form.tokens fun f => (inner f).tokens (p.secs f).toNat (p.nanos f).toNat

/-- The text states the parts in one of the ways to write them, with any white space. -/
def StatedBy (p : Parts) (s : String) : Prop :=
  ∃ form inner, Spelled (p.tokens form inner) s.toList

/-- There is a text for every way to write the parts. -/
theorem exists_text (p : Parts) (form : Form) (inner : Field → Duration.Form) :
    ∃ s : String, Spelled (p.tokens form inner) s.toList := by
  obtain ⟨s, spelled⟩ := Json.exists_spelled (p.tokens form inner)
    (form.spells _ fun f => (inner f).spells (p.secs f).toNat (p.nanos f).toNat)
  refine ⟨String.ofList s, ?_⟩
  rwa [String.toList_ofList]

/-- The duration of a field, if it is short enough. -/
def duration? (p : Parts) (f : Field) : Option Duration :=
  Duration.ofParts? (p.secs f).toNat (p.nanos f).toNat

theorem duration?_eq_some_iff (p : Parts) (f : Field) (d : Duration) :
    p.duration? f = some d ↔ d.toNanos = p.length f :=
  Duration.ofParts?_eq_some_iff _ _ d

theorem duration?_eq_none_iff (p : Parts) (f : Field) :
    p.duration? f = none ↔ Duration.longest.toNanos < p.length f :=
  Duration.ofParts?_eq_none_iff _ _

end Parts

/-- However the parts are stated, their durations alone decide what is read. -/
theorem parse?_of_stated (p : Parts) (s : String) (stated : p.StatedBy s) :
    parse? s = ofParts? (p.duration? .encode) (p.duration? .decode) (p.duration? .commit)
      (p.duration? .execution) := by
  obtain ⟨form, inner, spelled⟩ := stated
  have apart := form.apart _ fun f => (inner f).apart (p.secs f).toNat (p.nanos f).toNat
  have denotes := form.denotes _ _ fun f => (inner f).denotes (p.secs f).toNat (p.nanos f).toNat
  have durations : ∀ f, Duration.ofJson? ((inner f).value (p.secs f).toNat (p.nanos f).toNat) =
      p.duration? f := fun f => by
    rw [Duration.ofJson?_value, Duration.ofWritten?_eq, Parts.duration?]
  rw [parse?, Json.parse?_of_spelled spelled apart denotes, Option.bind_some, ofJson?_value,
    durations, durations, durations, durations]

/-- Time information is given just if every duration is. -/
theorem ofParts?_eq_some_iff (durations : Field → Option Duration) (t : TimeInfo) :
    ofParts? (durations .encode) (durations .decode) (durations .commit) (durations .execution) =
      some t ↔ ∀ f, durations f = some (t.field f) := by
  constructor
  · intro whole
    unfold ofParts? at whole
    split at whole
    next encode decode commit execution =>
      rw [← Option.some.inj whole]
      intro f
      cases f with
      | encode => exact encode
      | decode => exact decode
      | commit => exact commit
      | execution => exact execution
    next => cases whole
  · intro each
    rw [each .encode, each .decode, each .commit, each .execution]
    rfl

/-- All forms of the same parts are read alike. -/
theorem parse?_eq_some_iff_of_stated (p : Parts) (s : String) (stated : p.StatedBy s)
    (t : TimeInfo) : parse? s = some t ↔ ∀ f, (t.field f).toNanos = p.length f := by
  rw [parse?_of_stated p s stated, ofParts?_eq_some_iff]
  exact forall_congr' fun f => p.duration?_eq_some_iff f (t.field f)

/-- Parts that are short enough are those of some time information. -/
theorem exists_of_short (p : Parts) (short : ∀ f, p.length f ≤ Duration.longest.toNanos) :
    ∃ t : TimeInfo, ∀ f, (t.field f).toNanos = p.length f := by
  have each : ∀ f, ∃ d : Duration, d.toNanos = p.length f := fun f => by
    cases found : p.duration? f with
    | some d => exact ⟨d, (p.duration?_eq_some_iff f d).mp found⟩
    | none => exact absurd ((p.duration?_eq_none_iff f).mp found) (Nat.not_lt.mpr (short f))
  obtain ⟨encode, encoded⟩ := each .encode
  obtain ⟨decode, decoded⟩ := each .decode
  obtain ⟨commit, committed⟩ := each .commit
  obtain ⟨execution, executed⟩ := each .execution
  refine ⟨⟨encode, decode, commit, execution⟩, fun f => ?_⟩
  cases f with
  | encode => exact encoded
  | decode => exact decoded
  | commit => exact committed
  | execution => exact executed

/-- One field that does not fit is enough to refuse the whole text. -/
theorem parse?_eq_none_of_long (p : Parts) (s : String) (stated : p.StatedBy s) (f : Field)
    (long : Duration.longest.toNanos < p.length f) : parse? s = none := by
  cases read : parse? s with
  | none => rfl
  | some t =>
    have exact := (parse?_eq_some_iff_of_stated p s stated t).mp read f
    have bound := (t.field f).toNanos_le_longest
    omega

/-- The parts that time information has. -/
def parts (t : TimeInfo) : Parts where
  secs f := .ofNat (t.field f).secs
  nanos f := .ofNat (t.field f).nanos

theorem secs_parts (t : TimeInfo) (f : Field) : (t.parts.secs f).toNat = (t.field f).secs :=
  UInt64.toNat_ofNat_of_lt' (t.field f).secs_lt

theorem nanos_parts (t : TimeInfo) (f : Field) : (t.parts.nanos f).toNat = (t.field f).nanos :=
  UInt32.toNat_ofNat_of_lt' (Nat.lt_trans (t.field f).nanos_lt (by decide))

theorem length_parts (t : TimeInfo) (f : Field) : t.parts.length f = (t.field f).toNanos := by
  rw [Parts.length, secs_parts, nanos_parts, Duration.toNanos]

theorem spelled_plain (name : String) (plain : ∀ c ∈ name.toList, Json.IsPlain c) :
    Spelled [.plain name] ('"' :: (name.toList ++ ['"'])) :=
  (Spells.plain name plain).spelled

theorem spelled_duration (d : Duration) :
    Spelled (Duration.Form.secsFirst.tokens d.secs d.nanos) d.toJson.toList := by
  have number := fun n => (Spells.natural n).spelled
  have colon := Spells.colon.spelled
  have seconds := ((spelled_plain "secs" Duration.plain_secs).append colon).append (number d.secs)
  have rest := ((spelled_plain "nanos" Duration.plain_nanos).append colon).append (number d.nanos)
  have whole := ((Spells.openBrace.spelled.append seconds).append Spells.comma.spelled).append
    (rest.append Spells.closeBrace.spelled)
  unfold Duration.toJson
  simpa [Duration.Form.tokens] using whole

/-- A field as it stands in the written object. -/
def written (t : TimeInfo) (f : Field) : List Char :=
  '"' :: (f.name.toList ++ '"' :: ':' :: (t.field f).toJson.toList)

theorem spelled_written (t : TimeInfo) (f : Field) :
    Spelled (.plain f.name :: .colon ::
      Duration.Form.secsFirst.tokens (t.field f).secs (t.field f).nanos) (t.written f) := by
  have member := ((spelled_plain f.name f.plain_name).append Spells.colon.spelled).append
    (spelled_duration (t.field f))
  simpa [written] using member

theorem toList_toJson (t : TimeInfo) :
    t.toJson.toList = '\x7b' :: (t.written .encode ++ ',' :: (t.written .decode ++
      ',' :: (t.written .commit ++ ',' :: (t.written .execution ++ ['\x7d'])))) := by
  unfold toJson
  simp [written, Field.name, field]

/-- What is written states the parts: the fields in their order, without white space. -/
theorem stated_toJson (t : TimeInfo) : t.parts.StatedBy t.toJson := by
  refine ⟨.object Field.all (.refl _), fun _ => .secsFirst, ?_⟩
  have comma := Spells.comma.spelled
  have members := ((t.spelled_written .encode).append comma).append
    (((t.spelled_written .decode).append comma).append
      (((t.spelled_written .commit).append comma).append (t.spelled_written .execution)))
  have whole := (Spells.openBrace.spelled.append members).append Spells.closeBrace.spelled
  rw [toList_toJson]
  simpa [Parts.tokens, Form.tokens, Field.all, secs_parts, nanos_parts] using whole

/-- Writing and reading again is the identity. -/
theorem parse?_toJson (t : TimeInfo) : parse? t.toJson = some t :=
  (parse?_eq_some_iff_of_stated t.parts _ (stated_toJson t) t).mpr fun f => (length_parts t f).symm

/-- There is a text for every way to write parts down, and all texts of the same parts are read
as the same durations, exact and in normal form, if each of them is short enough, and are
refused otherwise. What is written of time information states it, and is read back as it was;
so is what is written after a text was read. A text that is refused leaves a register alone,
and any other replaces it. -/
theorem json_read_back (p : Parts) (t register : TimeInfo) (s : String) :
    (∀ form inner, ∃ text : String, Spelled (p.tokens form inner) text.toList) ∧
    ((∀ f, p.length f ≤ Duration.longest.toNanos) → ∃ read : TimeInfo,
      (∀ f, (read.field f).Normal (p.length f)) ∧ ∀ text, p.StatedBy text → parse? text = some read) ∧
    ((∃ f, Duration.longest.toNanos < p.length f) → ∀ text, p.StatedBy text → parse? text = none) ∧
    t.parts.StatedBy t.toJson ∧ (∀ f, t.parts.length f = (t.field f).toNanos) ∧
    parse? t.toJson = some t ∧
    (∀ read, parse? s = some read → parse? read.toJson = some read ∧
      register.restore s = (true, read)) ∧
    (parse? s = none → register.restore s = (false, register)) := by
  refine ⟨p.exists_text, fun short => ?_,
    fun ⟨f, long⟩ text stated => parse?_eq_none_of_long p text stated f long,
    stated_toJson t, length_parts t, parse?_toJson t, fun read accepted => ?_, fun refused => ?_⟩
  · obtain ⟨read, exact⟩ := exists_of_short p short
    refine ⟨read, fun f => (Duration.normal_iff _ _).mpr (exact f), fun text stated => ?_⟩
    exact (parse?_eq_some_iff_of_stated p text stated read).mpr exact
  · exact ⟨parse?_toJson read, by rw [restore, accepted]⟩
  · rw [restore, refused]

/-- Two seconds of nanoseconds are carried, unless the seconds have no room for them. -/
example :
    (parse? "[[1, 2000000000],[0,0],\n\x7b\"nanos\":7 ,\"secs\":0\x7d,[0,0]]").map
        (fun t => (t.encode.toNanos, t.commit.toNanos)) = some (3000000000, 7) ∧
      parse? "[[18446744073709551615,1000000000],[0,0],[0,0],[0,0]]" = none := by
  decide +kernel

end TimeInfo
end Tether
