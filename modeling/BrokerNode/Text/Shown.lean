/-
BrokerNode/Text/Shown.lean

Values as they are shown to people: one tree, two layouts.

A value is shown as a single word, as a record with named fields, as a named value with parts in
parentheses, as a list in brackets or as a table in braces.  The plain layout keeps everything on
one line.  The pretty layout gives every part a line of its own, indented by four spaces for each
level and followed by a comma; a list or table without parts stays on its line.

Since both layouts are functions of the tree, values with equal trees are shown alike in both.
-/
import BrokerNode.Text.Quoted

namespace BrokerNode.Text

/-- How a value is shown, before it is laid out. -/
inductive Shown where
  | word (text : String)
  | named (name : String) (parts : List Shown)
  | record (name : String) (fields : List (String × Shown))
  | list (intro : String) (parts : List Shown)
  | table (intro : String) (entries : List (String × Shown))

namespace Shown

/-- A text, in quotes. -/
def text (s : String) : Shown := .word (Quoted.quote s)

/-- A number. -/
def nat (n : Nat) : Shown := .word (toString n)

/-- A truth value. -/
def bool (b : Bool) : Shown := .word (toString b)

/-- A value that may be absent. -/
def option {α : Type} (show' : α → Shown) : Option α → Shown
  | none => .word "None"
  | some a => .named "Some" [show' a]

/-! ### The plain layout -/

mutual

/-- Everything on one line. -/
def plain : Shown → String
  | .word t => t
  | .named name parts => name ++ "(" ++ ", ".intercalate (plainParts parts) ++ ")"
  | .record name [] => name
  | .record name (f :: fs) =>
    name ++ " \x7b " ++ ", ".intercalate (plainFields (f :: fs)) ++ " \x7d"
  | .list intro parts => intro ++ "[" ++ ", ".intercalate (plainParts parts) ++ "]"
  | .table intro entries => intro ++ "\x7b" ++ ", ".intercalate (plainFields entries) ++ "\x7d"

/-- The parts of a value in the plain layout. -/
def plainParts : List Shown → List String
  | [] => []
  | p :: ps => plain p :: plainParts ps

/-- The labelled parts of a value in the plain layout. -/
def plainFields : List (String × Shown) → List String
  | [] => []
  | (label, p) :: ps => (label ++ ": " ++ plain p) :: plainFields ps

end

/-! ### The pretty layout -/

/-- The start of a line at an indentation level. -/
def margin (level : Nat) : String := String.ofList (List.replicate (4 * level) ' ')

/-- The lines of the parts between an opening and a closing mark. -/
def block (opening : String) (level : Nat) (parts : List String) (closing : String) : String :=
  if parts.isEmpty then opening ++ closing
  else
    opening ++ "\n" ++ String.join (parts.map fun p => margin (level + 1) ++ p ++ ",\n") ++
      margin level ++ closing

mutual

/-- Every part on a line of its own; `level` is the indentation of the line that it starts on. -/
def pretty (level : Nat) : Shown → String
  | .word t => t
  | .named name parts => block (name ++ "(") level (prettyParts (level + 1) parts) ")"
  | .record name [] => name
  | .record name (f :: fs) =>
    block (name ++ " \x7b") level (prettyFields (level + 1) (f :: fs)) "\x7d"
  | .list intro parts => block (intro ++ "[") level (prettyParts (level + 1) parts) "]"
  | .table intro entries =>
    block (intro ++ "\x7b") level (prettyFields (level + 1) entries) "\x7d"

/-- The parts of a value in the pretty layout. -/
def prettyParts (level : Nat) : List Shown → List String
  | [] => []
  | p :: ps => pretty level p :: prettyParts level ps

/-- The labelled parts of a value in the pretty layout. -/
def prettyFields (level : Nat) : List (String × Shown) → List String
  | [] => []
  | (label, p) :: ps => (label ++ ": " ++ pretty level p) :: prettyFields level ps

end

end Shown

end BrokerNode.Text
