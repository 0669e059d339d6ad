/-
BrokerNode/Text/Duration.lean

How a duration in whole milliseconds is written.

Below one second it is written in milliseconds, from one second on in seconds with as many decimals
as it needs, at most three.  No duration at all is zero nanoseconds.
-/

namespace BrokerNode.Text

/-- The decimals of a number of thousandths, without zeros at the end. -/
def thousandths (n : Nat) : List Char :=
  ([n / 100 % 10, n / 10 % 10, n % 10].map Nat.digitChar).reverse.dropWhile (· == '0') |>.reverse

/-- The text of a duration in milliseconds. -/
def duration (ms : Nat) : List Char :=
  if ms = 0 then ['0', 'n', 's']
  else if ms < 1000 then Nat.toDigits 10 ms ++ ['m', 's']
  else
    let decimals := thousandths (ms % 1000)
    Nat.toDigits 10 (ms / 1000) ++ (if decimals.isEmpty then [] else '.' :: decimals) ++ ['s']

end BrokerNode.Text
