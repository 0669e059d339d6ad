/-
BrokerNode/Json/Fault.lean

Why the reading of a JSON text failed, and where.

A fault names its cause and the number of bytes of the text that lie behind the place it points at.
The place itself is worked out from the whole text at the end: the line, counted from one, and the
number of bytes from the start of that line up to the place.  A place counts bytes and not
characters, so it may lie within a character.
-/
import BrokerNode.Json.Basic
import BrokerNode.Decimal.Layout
import BrokerNode.Text.Quoted

namespace BrokerNode.Json

/-- Doubles are written with the point in place from 10^-5 up to, but not including, 10^16. -/
def floatLayout : Decimal.Layout := ⟨-5, 15⟩

/-- The text of a double. -/
def writeFloat (x : Float) : List Char := floatLayout.writeFloat x

/-- Why reading failed. -/
inductive Cause where
  | endInValue
  | endInList
  | endInObject
  | endInString
  | expectedValue
  | expectedIdent
  | expectedColon
  | expectedListCommaOrEnd
  | expectedObjectCommaOrEnd
  | keyMustBeString
  | trailingComma
  | trailingCharacters
  | invalidNumber
  | numberOutOfRange
  | invalidEscape
  | loneSurrogate
  | unexpectedEndOfEscape
  | controlCharacter
  | nestingTooDeep
  | duplicateField (name : String)
  | missingField (name : String)
  | invalidLength (length : Nat) (expected : String)
  | invalidType (found : Json) (expected : String)

/-- How a scalar is described in a message. -/
def describe : Json → String
  | .null => "null"
  | .bool b => "boolean `" ++ toString b ++ "`"
  | .number (.whole n _) => "integer `" ++ toString n ++ "`"
  | .number (.float x) => "floating point `" ++ String.ofList (writeFloat x) ++ "`"
  | .string s => "string " ++ Text.Quoted.quote s
  | .list _ => "sequence"
  | .object _ => "map"

/-- The words for a cause. -/
def Cause.message : Cause → String
  | .endInValue => "EOF while parsing a value"
  | .endInList => "EOF while parsing a list"
  | .endInObject => "EOF while parsing an object"
  | .endInString => "EOF while parsing a string"
  | .expectedValue => "expected value"
  | .expectedIdent => "expected ident"
  | .expectedColon => "expected `:`"
  | .expectedListCommaOrEnd => "expected `,` or `]`"
  | .expectedObjectCommaOrEnd => "expected `,` or `\x7d`"
  | .keyMustBeString => "key must be a string"
  | .trailingComma => "trailing comma"
  | .trailingCharacters => "trailing characters"
  | .invalidNumber => "invalid number"
  | .numberOutOfRange => "number out of range"
  | .invalidEscape => "invalid escape"
  | .loneSurrogate => "lone leading surrogate in hex escape"
  | .unexpectedEndOfEscape => "unexpected end of hex escape"
  | .controlCharacter => "control character (\\u0000-\\u001F) found while parsing a string"
  | .nestingTooDeep => "recursion limit exceeded"
  | .duplicateField name => "duplicate field `" ++ name ++ "`"
  | .missingField name => "missing field `" ++ name ++ "`"
  | .invalidLength n expected => "invalid length " ++ toString n ++ ", expected " ++ expected
  | .invalidType found expected => "invalid type: " ++ describe found ++ ", expected " ++ expected

/-- The number of bytes of a text in UTF-8. -/
def byteLength (s : List Char) : Nat := s.foldl (fun n c => n + c.utf8Size) 0

/-- A cause with the number of bytes behind the place it points at. -/
structure Fault where
  cause : Cause
  unread : Nat

namespace Fault

/-- A fault in front of the text that is left: all that was read counts. -/
def here (cause : Cause) (rest : List Char) : Fault := ⟨cause, byteLength rest⟩

/-- A fault at the next byte of the text that is left, or at its end. -/
def next (cause : Cause) (rest : List Char) : Fault := ⟨cause, byteLength rest - 1⟩

end Fault

/-- A place in a text. -/
structure Place where
  line : Nat
  column : Nat
deriving DecidableEq, Repr

namespace Place

/-- The place `offset` bytes further on in a text that starts at `p`. -/
def advance (p : Place) (offset : Nat) : List Char → Place
  | [] => p
  | c :: s =>
    if offset < c.utf8Size then { p with column := p.column + offset }
    else if c = '\n' then advance ⟨p.line + 1, 0⟩ (offset - c.utf8Size) s
    else advance ⟨p.line, p.column + c.utf8Size⟩ (offset - c.utf8Size) s

/-- The place `offset` bytes after the start of a text. -/
def ofOffset (text : List Char) (offset : Nat) : Place := advance ⟨1, 0⟩ offset text

end Place

/-- A fault together with its place in the text that was read. -/
structure LocatedFault where
  cause : Cause
  place : Place

namespace LocatedFault

/-- Finds the place of a fault in a text. -/
def ofFault (text : List Char) (f : Fault) : LocatedFault :=
  ⟨f.cause, .ofOffset text (byteLength text - f.unread)⟩

/-- The message: the words for the cause, then the place. -/
def message (e : LocatedFault) : String :=
  e.cause.message ++ " at line " ++ toString e.place.line ++ " column " ++ toString e.place.column

end LocatedFault

end BrokerNode.Json
