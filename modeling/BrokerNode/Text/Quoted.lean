/-
BrokerNode/Text/Quoted.lean

Quoted texts, as values are shown to people.

A quoted text stands between double quotes.  The quote and the backslash take a backslash, tab,
line feed, carriage return and the null character have short escapes, and every other character
that cannot be shown as itself is written by its number in braces.
-/
import BrokerNode.Text.Printable

namespace BrokerNode.Text.Quoted

/-- The number of a character, in lower-case hexadecimal digits between braces. -/
def byNumber (c : Char) : List Char :=
  ['\\', 'u', '{'] ++ Nat.toDigits 16 c.toNat ++ ['}']

/-- A character as it stands inside a quoted text. -/
def escape (c : Char) : List Char :=
  match c with
  | '\x00' => ['\\', '0']
  | '\t' => ['\\', 't']
  | '\n' => ['\\', 'n']
  | '\r' => ['\\', 'r']
  | '"' => ['\\', '"']
  | '\\' => ['\\', '\\']
  | c => if isPrintable c then [c] else byNumber c

/-- A text between quotes. -/
def quote (s : String) : String :=
  String.ofList ('"' :: s.toList.flatMap escape ++ ['"'])

end BrokerNode.Text.Quoted
