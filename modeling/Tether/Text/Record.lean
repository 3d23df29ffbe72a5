/-!
# The text of structured values

Values are shown by their name followed by their fields in braces, options as
`None` or `Some`, and tables as entries in braces.
-/
namespace Tether.Text

/-- A name and its fields. -/
def record (name : String) (fields : List (String × String)) : String :=
  name ++ " \x7b " ++ String.intercalate ", " (fields.map fun f => f.1 ++ ": " ++ f.2) ++ " \x7d"

def applied (name value : String) : String := name ++ "(" ++ value ++ ")"

def optional : Option String → String
  | none => "None"
  | some s => applied "Some" s

def table (entries : List (String × String)) : String :=
  "\x7b" ++ String.intercalate ", " (entries.map fun e => e.1 ++ ": " ++ e.2) ++ "\x7d"

end Tether.Text
