/-
BrokerNode/Json/Shown.lean

How JSON values are shown to people: every value with the name of its kind.
-/
import BrokerNode.Json.NumberLiteral
import BrokerNode.Text.Shown

namespace BrokerNode.Json

open Text (Shown)

mutual

/-- The value as it is shown. -/
def shown : Json → Shown
  | .null => .word "Null"
  | .bool b => .word ("Bool(" ++ toString b ++ ")")
  | .number n => .word ("Number(" ++ String.ofList n.write ++ ")")
  | .string s => .word ("String(" ++ Text.Quoted.quote s ++ ")")
  | .list xs => .list "Array " (shownElements xs)
  | .object ms => .table "Object " (shownMembers ms)

/-- The elements of a list as they are shown. -/
def shownElements : List Json → List Shown
  | [] => []
  | x :: xs => shown x :: shownElements xs

/-- The members of an object as they are shown. -/
def shownMembers : List (String × Json) → List (String × Shown)
  | [] => []
  | (name, x) :: ms => (Text.Quoted.quote name, shown x) :: shownMembers ms

end

/-- A field that may be absent, as it is shown. -/
def shownField (v : Option Json) : Shown := .option shown v

end BrokerNode.Json
