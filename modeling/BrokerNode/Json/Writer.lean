/-
BrokerNode/Json/Writer.lean

Writing JSON values: the compact form, without blanks.  The members of an object come in the order
in which it holds them.
-/
import BrokerNode.Json.NumberLiteral
import BrokerNode.Json.StringLiteral

namespace BrokerNode.Json

/-- Texts one after the other, with commas between them. -/
def separated : List (List Char) → List Char
  | [] => []
  | [t] => t
  | t :: ts => t ++ ',' :: separated ts

/-- A member: its name, a colon and the text of its value. -/
def writeMember (name : String) (value : List Char) : List Char :=
  StringLiteral.write name ++ ':' :: value

mutual

/-- The text of a value. -/
def write : Json → List Char
  | .null => ['n', 'u', 'l', 'l']
  | .bool true => ['t', 'r', 'u', 'e']
  | .bool false => ['f', 'a', 'l', 's', 'e']
  | .number n => n.write
  | .string s => StringLiteral.write s
  | .list xs => '[' :: (separated (writeElements xs) ++ [']'])
  | .object ms => '{' :: (separated (writeMembers ms) ++ ['}'])

/-- The texts of the elements of a list. -/
def writeElements : List Json → List (List Char)
  | [] => []
  | x :: xs => write x :: writeElements xs

/-- The texts of the members of an object. -/
def writeMembers : List (String × Json) → List (List Char)
  | [] => []
  | (name, x) :: ms => writeMember name (write x) :: writeMembers ms

end

/-- The text of an object with the given fields, those that are absent left out. -/
def writeFields (fields : List (String × Option Json)) : List Char :=
  '{' :: (separated (fields.filterMap fun (name, v) => v.map fun x => writeMember name (write x)) ++
    ['}'])

/-- The text of a value, as a string. -/
def render (v : Json) : String := String.ofList (write v)

end BrokerNode.Json
