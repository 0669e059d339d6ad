/-
BrokerNode/Dotenv/Assignment.lean

The lines of an environment file, as assignments.

An assignment is a name, an equals sign and a value, with blanks between them, and may be introduced
by the word `export`; that word is itself the name if the equals sign follows it.  Nothing behind the
equals sign, or a comment at once, is the empty value.
-/
import BrokerNode.Dotenv.Value
import BrokerNode.Text.Blank

namespace BrokerNode.Dotenv

/-- A name with the value assigned to it. -/
structure Assignment where
  name : String
  value : String
deriving DecidableEq, Repr

/-- A character that a name can start with. -/
def isNameStart (c : Char) : Bool := c.isAlpha || c == '_'

/-- A character that a name can have. -/
def isNamePart (c : Char) : Bool := c.isAlphanum || c == '_' || c == '.'

/-- The name at the start of a text, and the text behind it and the blanks that follow. -/
def name? (s : List Char) : Option (List Char × List Char) :=
  match s with
  | c :: _ =>
    if isNameStart c then some (s.takeWhile isNamePart, Text.trimStart (s.dropWhile isNamePart))
    else none
  | [] => none

/-- The word that may introduce an assignment. -/
def exportWord : List Char := ['e', 'x', 'p', 'o', 'r', 't']

/-- The name that is assigned to, and the text behind the equals sign. -/
def target? (s : List Char) : Option (List Char × List Char) :=
  match name? s with
  | none => none
  | some (name, '=' :: rest) => some (name, rest)
  | some (name, rest) =>
    if name = exportWord then
      match name? rest with
      | some (name', '=' :: rest') => some (name', rest')
      | _ => none
    else none

/-- What a line says. -/
inductive Reading where
  | nothing
  | assignment (a : Assignment)
  | malformed

/-- A text that has nothing to say: empty, or a comment. -/
def isSilent (s : List Char) : Bool := s.isEmpty || s.head? == some '#'

/-- Reads a line.  `valueOf` gives the values of variables. -/
def readLine (valueOf : String → String) (line : List Char) : Reading :=
  let s := Text.trim line
  if isSilent s then .nothing
  else
    match target? s with
    | none => .malformed
    | some (name, rest) =>
      let rest := Text.trimStart rest
      if isSilent rest then .assignment ⟨String.ofList name, ""⟩
      else
        match value? valueOf rest with
        | some value => .assignment ⟨String.ofList name, String.ofList value⟩
        | none => .malformed

end BrokerNode.Dotenv
