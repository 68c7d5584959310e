import Provision.Text.Quoted

/-!
# Diagnostic text

How diagnostics write composite values on one line: a record as its name and its fields between
braces, a list between brackets, a map as quoted names with their values between braces.
-/

namespace Provision.Text

/-- A list of texts between brackets. -/
def inspectList (items : List String) : String := "[" ++ ", ".intercalate items ++ "]"

/-- Names with the texts of their values. -/
def inspectMap (entries : List (String × String)) : String :=
  "\x7b" ++ ", ".intercalate (entries.map fun e => quoted e.1 ++ ": " ++ e.2) ++ "\x7d"

/-- A record with the texts of its fields. -/
def inspectRecord (name : String) (fields : List (String × String)) : String :=
  if fields.isEmpty then name
  else
    name ++ " \x7b " ++ ", ".intercalate (fields.map fun e => e.1 ++ ": " ++ e.2) ++ " \x7d"

/-- An optional value. -/
def inspectOption : Option String → String
  | none => "None"
  | some text => "Some(" ++ text ++ ")"

end Provision.Text
