/-!
# Pieces of a text by bytes

Places in a text are counted in bytes of its encoding (UTF-8). A cut inside of a
character gives nothing.
-/
namespace Tether.Text

/-- Cuts a text after a number of bytes. -/
def splitAtByte? : Nat → List Char → Option (List Char × List Char)
  | 0, cs => some ([], cs)
  | _ + 1, [] => none
  | n + 1, c :: rest =>
    if c.utf8Size ≤ n + 1 then
      (splitAtByte? (n + 1 - c.utf8Size) rest).map fun r => (c :: r.1, r.2)
    else none

/-- The piece of a text from one byte to another. -/
def piece? (source : List Char) (start stop : Nat) : Option (List Char) := do
  let (_, rest) ← splitAtByte? start source
  let (found, _) ← splitAtByte? (stop - start) rest
  return found

def tail? (source : List Char) (start : Nat) : Option (List Char) :=
  (splitAtByte? start source).map (·.2)

end Tether.Text
