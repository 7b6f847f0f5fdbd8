/-!
# Labelled — values as text with their names

A record is its name and its fields in braces; a wrapped value is its name and the value in
parentheses.
-/

namespace Breaker.Text

/-- A record: its name, and in braces each field with its text. -/
def record (name : String) (fields : List (String × String)) : String :=
  name ++ " \x7b " ++ ", ".intercalate (fields.map fun f => f.1 ++ ": " ++ f.2) ++ " \x7d"

/-- A value wrapped by a name. -/
def wrapped (name value : String) : String := name ++ "(" ++ value ++ ")"

/-- A value that may be missing. -/
def optional : Option String → String
  | none => "None"
  | some value => wrapped "Some" value

/-- A truth value. -/
def truth (b : Bool) : String := if b then "true" else "false"

end Breaker.Text
