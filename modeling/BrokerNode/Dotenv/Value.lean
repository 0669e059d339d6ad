/-
BrokerNode/Dotenv/Value.lean

The values that an environment file assigns.

A value is read character by character.  Single quotes take everything as it is.  Double quotes, and
text outside quotes, know two things more: a backslash takes the next character as it is, or stands
for a line feed together with `n`, and a dollar sign starts the name of a variable, whose value takes
the place of both.  The name goes as far as letters and numbers go, or stands in braces; the character
behind a name without braces is taken as it is, unless it is the next dollar sign.  Outside quotes a
blank ends the value, and then only blanks and a comment may follow.
-/
import BrokerNode.Text.Alphanumeric

namespace BrokerNode.Dotenv

/-- How the next character of a value is taken. -/
inductive Mode where
  | text (quoted : Bool)
  | escape (quoted : Bool)
  | literal
  | name (quoted : Bool) (soFar : List Char)
  | braced (quoted : Bool) (soFar : List Char)
  | behind

/-- The character that an escape stands for. -/
def escaped? (c : Char) : Option Char :=
  if c = '\\' ∨ c = '\'' ∨ c = '"' ∨ c = '$' ∨ c = ' ' then some c
  else if c = 'n' then some '\n'
  else none

/-- Reads a value in a mode.  `valueOf` gives the values of variables; without a value the text is
malformed. -/
def readValue (valueOf : String → String) : Mode → List Char → Option (List Char)
  | .text quoted, [] => if quoted then none else some []
  | .escape quoted, [] => if quoted then none else some []
  | .literal, [] => none
  | .name quoted soFar, [] =>
    if quoted then none else some (valueOf (String.ofList soFar)).toList
  | .braced _ _, [] => none
  | .behind, [] => some []
  | .text quoted, c :: cs =>
    if c = '$' then readValue valueOf (.name quoted []) cs
    else if c = '\\' then readValue valueOf (.escape quoted) cs
    else if c = '"' then readValue valueOf (.text !quoted) cs
    else if quoted then (readValue valueOf (.text true) cs).map (c :: ·)
    else if c = '\'' then readValue valueOf .literal cs
    else if c = ' ' ∨ c = '\t' then readValue valueOf .behind cs
    else (readValue valueOf (.text false) cs).map (c :: ·)
  | .escape quoted, c :: cs =>
    match escaped? c with
    | some c' => (readValue valueOf (.text quoted) cs).map (c' :: ·)
    | none => none
  | .literal, c :: cs =>
    if c = '\'' then readValue valueOf (.text false) cs
    else (readValue valueOf .literal cs).map (c :: ·)
  | .name quoted soFar, c :: cs =>
    if Text.isAlphanumeric c then readValue valueOf (.name quoted (soFar ++ [c])) cs
    else if c = '{' ∧ soFar.isEmpty then readValue valueOf (.braced quoted []) cs
    else
      let value := (valueOf (String.ofList soFar)).toList
      if c = '$' then (readValue valueOf (.name quoted []) cs).map (value ++ ·)
      else (readValue valueOf (.text quoted) cs).map fun rest => value ++ c :: rest
  | .braced quoted soFar, c :: cs =>
    if c = '}' then
      (readValue valueOf (.text quoted) cs).map ((valueOf (String.ofList soFar)).toList ++ ·)
    else readValue valueOf (.braced quoted (soFar ++ [c])) cs
  | .behind, c :: cs =>
    if c = ' ' ∨ c = '\t' then readValue valueOf .behind cs
    else if c = '#' then some []
    else none

/-- The value that a text stands for. -/
def value? (valueOf : String → String) (s : List Char) : Option (List Char) :=
  readValue valueOf (.text false) s

end BrokerNode.Dotenv
