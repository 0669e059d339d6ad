/-
BrokerNode/Decimal/Layout.lean

How a decimal number is laid out: with a point in place, or with an exponent.

The exponent of a number here is the power of ten of its first digit.  Within a range of exponents
the number is written with its point in place and at least one digit after it.  Outside the range
it is written with one digit before the point, no point if there are no further digits, and the
exponent with its sign.
-/
import BrokerNode.Decimal.Shortest

namespace BrokerNode.Decimal

/-- The exponents for which the point stands in place. -/
structure Layout where
  least : Int
  greatest : Int
deriving DecidableEq, Repr

namespace Layout

/-- Digits with the point in place; `x` is the exponent of the first digit. -/
def inPlace (ds : List Char) (x : Int) : List Char :=
  if x < 0 then
    '0' :: '.' :: (List.replicate (-x - 1).toNat '0' ++ ds)
  else
    let n := x.toNat + 1
    let fraction := ds.drop n
    ds.take n ++ List.replicate (n - ds.length) '0' ++ '.' ::
      (if fraction.isEmpty then ['0'] else fraction)

/-- Digits with an exponent. -/
def withExponent (ds : List Char) (x : Int) : List Char :=
  let sign := if x < 0 then '-' else '+'
  let tail := ds.drop 1
  ds.take 1 ++ (if tail.isEmpty then [] else '.' :: tail) ++
    'e' :: sign :: Nat.toDigits 10 x.natAbs

/-- The text of a positive decimal number.  Zeros at the end of the digits are dropped first. -/
def write (l : Layout) (d : Scaled) : List Char :=
  let all := Nat.toDigits 10 d.digits
  let x := d.exponent + all.length - 1
  let ds := (all.reverse.dropWhile (· == '0')).reverse
  if l.least ≤ x && x ≤ l.greatest then inPlace ds x else withExponent ds x

/-- The text of a finite double: its sign, if it has one, and its shortest digits. -/
def writeFloat (l : Layout) (x : Float) : List Char :=
  let b := Binary.ofBits x.toBits
  let sign := if x.toBits >>> 63 = 1 then ['-'] else []
  sign ++ if b.significand = 0 then ['0', '.', '0'] else l.write b.shortest

end Layout

end BrokerNode.Decimal
