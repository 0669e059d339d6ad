/-
BrokerNode/Environment.lean

The environment of a process, and how an environment file tops it up.

An environment is a list of entries, each a name, an equals sign and a value, as bytes.  A name has
the value of the first entry that starts with it and an equals sign, and only if that value is text in
UTF-8; otherwise it counts as not set.

An environment file sets, line by line, those names that are not set when the line is reached.  It is
followed up to the first line that is malformed or cannot be read; that is no error.  But an entry ends
at the null character, so no environment holds a value with that character in it, and to set one is a
fault.
-/
import BrokerNode.Dotenv.Assignment
import BrokerNode.Dotenv.Line

namespace BrokerNode

/-- The environment of a process. -/
structure Environment where
  entries : List (List UInt8)

namespace Environment

/-- The bytes of a text in UTF-8. -/
def bytes (s : String) : List UInt8 := s.toUTF8.data.toList

/-- What an entry for a name starts with. -/
def head (name : String) : List UInt8 := bytes name ++ [61]

/-- The entry that gives a value to a name. -/
def entry (name value : String) : List UInt8 := head name ++ bytes value

/-- The part of a list behind a given start. -/
def behind? (start : List UInt8) (entry : List UInt8) : Option (List UInt8) :=
  if start.isPrefixOf entry then some (entry.drop start.length) else none

/-- The value of a name, if it is set to a text. -/
def value? (env : Environment) (name : String) : Option String :=
  if name.isEmpty then none
  else (env.entries.findSome? (behind? (head name))).bind fun v => String.fromUTF8? ⟨v.toArray⟩

/-- Sets a name: its entry takes the place of all that the name had. -/
def set (env : Environment) (a : Dotenv.Assignment) : Environment where
  entries := entry a.name a.value :: env.entries.filter fun e => !(head a.name).isPrefixOf e

/-- Something that no environment can hold. -/
inductive Fault where
  | nullInValue (a : Dotenv.Assignment)
deriving DecidableEq, Repr

/-- The words for a fault. -/
def Fault.message : Fault → String
  | .nullInValue a => "The value of " ++ a.name ++ " has a null character in it."

/-- Sets a name that is not set. -/
def supply (env : Environment) (a : Dotenv.Assignment) : Except Fault Environment :=
  if (env.value? a.name).isSome then .ok env
  else if '\x00' ∈ a.value.toList then .error (.nullInValue a)
  else .ok (env.set a)

/-- Follows the logical lines of an environment file. -/
def follow (env : Environment) : List (List Char) → Except Fault Environment
  | [] => .ok env
  | line :: lines =>
    match Dotenv.readLine (fun name => (env.value? name).getD "") line with
    | .nothing => env.follow lines
    | .assignment a =>
      match env.supply a with
      | .ok env => env.follow lines
      | .error f => .error f
    | .malformed => .ok env

/-- Tops an environment up from an environment file, if there is one. -/
def topUp (env : Environment) (file : Option ByteArray) : Except Fault Environment :=
  match file with
  | some content => env.follow (Dotenv.logicalLines content)
  | none => .ok env

end Environment

end BrokerNode
