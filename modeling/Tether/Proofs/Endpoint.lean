import Tether.Endpoint
import Tether.Proofs.Text.Blank
import Tether.Proofs.Text.Numeral

/-!
# Endpoints read back from their text

A host may hold colons and end in digits, but a port is written in digits alone. So the last
colon of the text is the one between host and port, and both can be read back, whatever the
host is.
-/
namespace Tether.Endpoint

/-- Reads an endpoint off its text: the port stands behind the last colon, the host before it. -/
def read? (s : String) : Option Endpoint :=
  let back := s.toList.reverse
  match back.dropWhile (· != ':'), Text.readPort (back.takeWhile (· != ':')).reverse with
  | ':' :: host, .ok port => some ⟨String.ofList host.reverse, port⟩
  | _, _ => none

theorem toList_portText (p : UInt16) : (portText p).toList = Nat.toDigits 10 p.toNat := by
  simp [portText]

theorem ne_colon_of_mem_portText (p : UInt16) :
    ∀ c ∈ (portText p).toList.reverse, (c != ':') = true := by
  intro c found
  rw [List.mem_reverse, toList_portText] at found
  have digit := (Text.digits_toDigits p.toNat).digit c found
  rw [bne_iff_ne]
  rintro rfl
  exact absurd digit (by decide)

/-- The text of a port is read as a port setting is. -/
theorem readPort_portText (p : UInt16) : Text.readPort (portText p).toList = .ok p := by
  have numeral := Text.Numeral.plain (Text.digits_toDigits p.toNat)
  rw [Text.decimal_toDigits] at numeral
  rw [Text.readPort_eq_ok_iff, toList_portText]
  exact numeral

/-- The text backwards has the port before its first colon. -/
theorem read?_text (e : Endpoint) : read? e.text = some e := by
  have back : e.text.toList.reverse =
      (portText e.port).toList.reverse ++ ':' :: e.host.toList.reverse := by
    simp [text]
  have digits := ne_colon_of_mem_portText e.port
  have stop : ∀ c, (':' :: e.host.toList.reverse).head? = some c → (c != ':') = false := by
    rintro c ⟨⟩
    rfl
  unfold read?
  rw [back]
  dsimp only
  rw [Text.takeWhile_append_of_stop _ _ _ digits stop,
    Text.dropWhile_append_of_stop _ _ _ digits stop, List.reverse_reverse, readPort_portText]
  simp

/-- A host may have colons of its own, so this is not plain from the form of the text. -/
theorem text_injective : Function.Injective text := by
  intro e e' same
  have read := read?_text e
  rw [same, read?_text] at read
  exact (Option.some.inj read).symm

/-- A host that looks like an endpoint itself, and one of no characters. -/
example :
    read? "::1:80:443" = some ⟨"::1:80", 443⟩ ∧ read? ":7" = some ⟨"", 7⟩ := by
  decide +kernel

end Tether.Endpoint
