/-!
# White space and trimming

Settings may be padded with any character that has the Unicode property
`White_Space`. The property has twenty-five members and is stable, so it is
written out here as ranges rather than taken from an ASCII classifier.
Trimming removes blanks from both ends and keeps those inside.
-/
namespace Tether.Text

/-- A character with the Unicode property `White_Space`. -/
def isBlank (c : Char) : Bool :=
  let n := c.toNat
  (0x09 ≤ n && n ≤ 0x0d) || n == 0x20 || n == 0x85 || n == 0xa0 || n == 0x1680 ||
    (0x2000 ≤ n && n ≤ 0x200a) || n == 0x2028 || n == 0x2029 || n == 0x202f ||
    n == 0x205f || n == 0x3000

def trimEnd (s : List Char) : List Char := (s.reverse.dropWhile isBlank).reverse

/-- The text without the blanks at either end. -/
def trim (s : List Char) : List Char := trimEnd (s.dropWhile isBlank)

end Tether.Text
