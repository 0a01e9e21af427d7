import PasswordHashing.Text.Quoted

/-!
One-line outlines of values for diagnosis: the name of the type, and its fields by name between
braces or its only content between parentheses.
-/

namespace PasswordHashing.Text.Inspect

/-- A value with named fields. -/
def fields (name : String) (content : List (String × String)) : String :=
  name ++ " \x7b " ++ ", ".intercalate (content.map fun (key, value) => key ++ ": " ++ value) ++
    " \x7d"

def wrapped (name content : String) : String :=
  name ++ "(" ++ content ++ ")"

def optional : Option String → String
  | some content => wrapped "Some" content
  | none => "None"

end PasswordHashing.Text.Inspect
