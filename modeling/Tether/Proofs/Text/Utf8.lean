import Mathlib.Data.List.Basic

/-!
# Bytes that are UTF-8

A character is written as one to four bytes, of which the first tells how many there are.
Which bytes may stand where is a matter of the bytes alone: a form that is longer than it has
to be, half of a surrogate pair, a number beyond the last character and a form that breaks off
are no characters. Bytes are UTF-8 if they are the bytes of characters one after another, and
these are exactly the bytes that some text is encoded as.
-/
namespace Tether.Text

/-- A byte that carries a character on. -/
def Follows (b : UInt8) : Prop := 0x80 ≤ b.toNat ∧ b.toNat < 0xC0

/-- The bytes of one character, by how many there are. The second byte decides what the first
leaves open: whether a shorter form would have done, whether the number is half of a surrogate
pair, and whether it is beyond the last character. -/
inductive CharacterBytes : List UInt8 → Prop
  | one {a : UInt8} (first : a.toNat < 0x80) : CharacterBytes [a]
  | two {a b : UInt8} (first : 0xC2 ≤ a.toNat ∧ a.toNat < 0xE0) (second : Follows b) :
      CharacterBytes [a, b]
  | three {a b c : UInt8} (first : 0xE0 ≤ a.toNat ∧ a.toNat < 0xF0) (second : Follows b)
      (third : Follows c) (shortest : a.toNat = 0xE0 → 0xA0 ≤ b.toNat)
      (whole : a.toNat = 0xED → b.toNat < 0xA0) : CharacterBytes [a, b, c]
  | four {a b c d : UInt8} (first : 0xF0 ≤ a.toNat ∧ a.toNat < 0xF5) (second : Follows b)
      (third : Follows c) (fourth : Follows d) (shortest : a.toNat = 0xF0 → 0x90 ≤ b.toNat)
      (within : a.toNat = 0xF4 → b.toNat < 0x90) : CharacterBytes [a, b, c, d]

inductive Utf8 : List UInt8 → Prop
  | nil : Utf8 []
  | cons {c rest : List UInt8} (first : CharacterBytes c) (others : Utf8 rest) : Utf8 (c ++ rest)

def encoded (text : List Char) : List UInt8 := text.flatMap String.utf8EncodeChar

def Encodes (bytes : ByteArray) (text : String) : Prop :=
  encoded text.toList = bytes.data.toList

theorem toNat_byte {n : Nat} (small : n < 256) : (UInt8.ofNat n).toNat = n := by
  rw [UInt8.toNat_ofNat']
  exact Nat.mod_eq_of_lt small

theorem follows_byte (n : Nat) : Follows (UInt8.ofNat (n % 64 + 128)) := by
  have below : n % 64 < 64 := Nat.mod_lt n (by decide)
  rw [Follows, toNat_byte (by omega)]
  omega

/-- A character is encoded in one of the forms of its length. -/
theorem characterBytes_utf8EncodeChar (c : Char) : CharacterBytes (String.utf8EncodeChar c) := by
  have valid : c.val.toNat < 55296 ∨ 57343 < c.val.toNat ∧ c.val.toNat < 1114112 := c.valid
  unfold String.utf8EncodeChar
  generalize c.val.toNat = n at valid
  dsimp only
  split
  next one =>
    apply CharacterBytes.one
    rw [toNat_byte (by omega)]
    omega
  next more =>
  split
  next two =>
    apply CharacterBytes.two
    · rw [toNat_byte (by omega)]
      omega
    · exact follows_byte n
  next more =>
  split
  next three =>
    have second := follows_byte (n / 64)
    apply CharacterBytes.three
    · rw [toNat_byte (by omega)]
      omega
    · exact second
    · exact follows_byte n
    · rw [toNat_byte (by omega), toNat_byte (by omega)]
      omega
    · rw [toNat_byte (by omega), toNat_byte (by omega)]
      omega
  next four =>
    apply CharacterBytes.four
    · rw [toNat_byte (by omega)]
      omega
    · exact follows_byte (n / 4096)
    · exact follows_byte (n / 64)
    · exact follows_byte n
    · rw [toNat_byte (by omega), toNat_byte (by omega)]
      omega
    · rw [toNat_byte (by omega), toNat_byte (by omega)]
      omega

theorem ofNat_byte {n : Nat} {b : UInt8} (same : n = b.toNat) : UInt8.ofNat n = b := by
  rw [same]
  exact UInt8.ofNat_toNat

/-- Every number but those of surrogates, up to a limit, is that of a character. -/
theorem exists_char {n : Nat} (valid : n < 55296 ∨ 57343 < n ∧ n < 1114112) :
    ∃ c : Char, c.val.toNat = n :=
  ⟨Char.ofNatAux n valid, rfl⟩

/-- Each form is the encoding of the character whose number its bytes make up. -/
theorem CharacterBytes.exists_utf8EncodeChar {l : List UInt8} (h : CharacterBytes l) :
    ∃ e, String.utf8EncodeChar e = l := by
  cases h with
  | @one a first =>
    obtain ⟨e, number⟩ := exists_char (n := a.toNat) (by omega)
    refine ⟨e, ?_⟩
    unfold String.utf8EncodeChar
    rw [number]
    dsimp only
    rw [if_pos (by omega), ofNat_byte (b := a) rfl]
  | @two a b first second =>
    obtain ⟨low, high⟩ := second
    obtain ⟨n, sum⟩ : ∃ n, n = (a.toNat - 0xC0) * 64 + (b.toNat - 0x80) := ⟨_, rfl⟩
    obtain ⟨e, number⟩ := exists_char (n := n) (by omega)
    refine ⟨e, ?_⟩
    unfold String.utf8EncodeChar
    rw [number]
    dsimp only
    rw [if_neg (by omega), if_pos (by omega), ofNat_byte (b := a) (by omega),
      ofNat_byte (b := b) (by omega)]
  | @three a b c first second third shortest whole =>
    obtain ⟨low, high⟩ := second
    obtain ⟨low', high'⟩ := third
    obtain ⟨n, sum⟩ : ∃ n, n =
      (a.toNat - 0xE0) * 4096 + (b.toNat - 0x80) * 64 + (c.toNat - 0x80) := ⟨_, rfl⟩
    obtain ⟨e, number⟩ := exists_char (n := n) (by omega)
    refine ⟨e, ?_⟩
    unfold String.utf8EncodeChar
    rw [number]
    dsimp only
    rw [if_neg (by omega), if_neg (by omega), if_pos (by omega), ofNat_byte (b := a) (by omega),
      ofNat_byte (b := b) (by omega), ofNat_byte (b := c) (by omega)]
  | @four a b c d first second third fourth shortest within =>
    obtain ⟨low, high⟩ := second
    obtain ⟨low', high'⟩ := third
    obtain ⟨low'', high''⟩ := fourth
    obtain ⟨n, sum⟩ : ∃ n, n = (a.toNat - 0xF0) * 262144 + (b.toNat - 0x80) * 4096 +
      (c.toNat - 0x80) * 64 + (d.toNat - 0x80) := ⟨_, rfl⟩
    obtain ⟨e, number⟩ := exists_char (n := n) (by omega)
    refine ⟨e, ?_⟩
    unfold String.utf8EncodeChar
    rw [number]
    dsimp only
    rw [if_neg (by omega), if_neg (by omega), if_neg (by omega), ofNat_byte (b := a) (by omega),
      ofNat_byte (b := b) (by omega), ofNat_byte (b := c) (by omega),
      ofNat_byte (b := d) (by omega)]

theorem utf8_encoded (text : List Char) : Utf8 (encoded text) := by
  induction text with
  | nil => exact .nil
  | cons c rest ih => exact .cons (characterBytes_utf8EncodeChar c) ih

theorem Utf8.exists_encoded {l : List UInt8} (h : Utf8 l) : ∃ text, encoded text = l := by
  induction h with
  | nil => exact ⟨[], rfl⟩
  | cons first _ ih =>
    obtain ⟨c, rfl⟩ := first.exists_utf8EncodeChar
    obtain ⟨text, rfl⟩ := ih
    exact ⟨c :: text, rfl⟩

/-- Bytes are UTF-8 exactly if some text is encoded as them. -/
theorem utf8_iff_encodes (bytes : ByteArray) :
    Utf8 bytes.data.toList ↔ ∃ text, Encodes bytes text := by
  constructor
  · intro h
    obtain ⟨text, coded⟩ := h.exists_encoded
    exact ⟨String.ofList text, (congrArg encoded String.toList_ofList).trans coded⟩
  · rintro ⟨text, coded⟩
    rw [← coded]
    exact utf8_encoded text.toList

theorem encoded_toList (text : String) : encoded text.toList = text.toByteArray.data.toList := by
  rw [← String.utf8Encode_toList]
  exact List.toList_data_toByteArray.symm

theorem bytes_ext {a b : ByteArray} (same : a.data.toList = b.data.toList) : a = b :=
  ByteArray.ext (Array.toList_inj.mp same)

theorem encodes_toByteArray (text : String) : Encodes text.toByteArray text := encoded_toList text

/-- A text is encoded in one way. -/
theorem Encodes.unique {a b : ByteArray} {text : String} (first : Encodes a text)
    (second : Encodes b text) : a = b :=
  bytes_ext (first.symm.trans second)

/-- Reading bytes gives a text exactly if this text is encoded as them. -/
theorem fromUTF8?_eq_some_iff (bytes : ByteArray) (text : String) :
    String.fromUTF8? bytes = some text ↔ Encodes bytes text := by
  rw [Encodes, encoded_toList]
  unfold String.fromUTF8?
  split
  next valid =>
    rw [Option.some.injEq, ← String.toByteArray_inj]
    exact ⟨fun same => congrArg (fun b : ByteArray => b.data.toList) same.symm,
      fun same => (bytes_ext same).symm⟩
  next invalid =>
    constructor
    · intro read
      cases read
    · intro same
      rw [← bytes_ext same] at invalid
      exact absurd text.isValidUTF8 invalid

/-- Reading fails exactly on what is not UTF-8. -/
theorem fromUTF8?_eq_none_iff (bytes : ByteArray) :
    String.fromUTF8? bytes = none ↔ ¬Utf8 bytes.data.toList := by
  rw [utf8_iff_encodes, Option.eq_none_iff_forall_ne_some, not_exists]
  exact forall_congr' fun text => not_congr (fromUTF8?_eq_some_iff bytes text)

instance (l : List UInt8) : Decidable (Utf8 l) :=
  decidable_of_iff (String.fromUTF8? l.toByteArray ≠ none) (by
    rw [ne_eq, fromUTF8?_eq_none_iff, not_not, List.toList_data_toByteArray])

/-- The last character of three bytes; then a form that is too long, half of a surrogate pair,
a form that breaks off, and a number beyond the last character. -/
example : Utf8 [0xEF, 0xBF, 0xBF] ∧ ¬Utf8 [0xC0, 0x80] ∧ ¬Utf8 [0xED, 0xA0, 0x80] ∧
    ¬Utf8 [0xE2, 0x82] ∧ ¬Utf8 [0xF4, 0x90, 0x80, 0x80] := by
  decide +kernel

end Tether.Text
