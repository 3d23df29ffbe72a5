/-!
# Truth values and numbers as text

A number has digits before or after its point, or both, perhaps a sign in front and an
exponent behind. Infinity and what is no number count as numbers, in any case of
letters.
-/
namespace Tether.Text

def unsigned : List Char → List Char
  | '+' :: rest => rest
  | '-' :: rest => rest
  | cs => cs

/-- Whether a text ends a decimal as its exponent does, or ends it at once. -/
def isExponent : List Char → Bool
  | [] => true
  | e :: rest =>
    (e == 'e' || e == 'E') && !(unsigned rest).isEmpty && (unsigned rest).all Char.isDigit

def isDecimal (cs : List Char) : Bool :=
  let whole := cs.takeWhile Char.isDigit
  match cs.dropWhile Char.isDigit with
  | '.' :: rest =>
    !(whole.isEmpty && (rest.takeWhile Char.isDigit).isEmpty) &&
      isExponent (rest.dropWhile Char.isDigit)
  | rest => !whole.isEmpty && isExponent rest

def isScalar (s : String) : Bool :=
  let cs := unsigned s.toList
  s == "true" || s == "false" || isDecimal cs ||
    ["inf", "infinity", "nan"].contains (String.ofList (cs.map Char.toLower))

end Tether.Text
