import Provision.Json.Printer
import Provision.Text.Inspect

/-!
# Diagnostic text of Json

Diagnostics name the kind of every value.
-/

namespace Provision.Json

mutual

/-- The diagnostic text of a value. -/
def inspect : Json → String
  | .null => "Null"
  | .bool b => "Bool(" ++ toString b ++ ")"
  | .number n => "Number(" ++ String.ofList n.chars ++ ")"
  | .string s => "String(" ++ Text.quoted s ++ ")"
  | .array items => "Array " ++ Text.inspectList (inspectItems items)
  | .object members => "Object " ++ Text.inspectMap (inspectMembers members)

/-- The diagnostic texts of the items. -/
def inspectItems : List Json → List String
  | [] => []
  | j :: js => inspect j :: inspectItems js

/-- The names of the members with the diagnostic texts of their values. -/
def inspectMembers : List (String × Json) → List (String × String)
  | [] => []
  | (k, j) :: rest => (k, inspect j) :: inspectMembers rest

end

end Provision.Json
