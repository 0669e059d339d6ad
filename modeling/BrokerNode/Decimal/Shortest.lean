/-
BrokerNode/Decimal/Shortest.lean

The fewest decimal digits that read back as a given binary floating point number.

A positive double stands for the real number m · 2^q, and the reals that round to it form an
interval around it; its ends belong to it exactly when m is even, because a tie goes to the even
neighbour.  Grids of decimal numbers with 1, 2, … digits are tried in turn.  On each grid only the
two neighbours of the number can be the nearest ones, so those two are tested, in exact integer
arithmetic, and the first grid that has one of them in the interval gives the digits: of two hits
the nearer one, of two equally near ones the even one.
-/

namespace BrokerNode.Decimal

/-- A decimal number: `digits · 10 ^ exponent`. -/
structure Scaled where
  digits : Nat
  exponent : Int
deriving DecidableEq, Repr

/-- A finite double without its sign: `significand · 2 ^ exponent`. -/
structure Binary where
  significand : Nat
  exponent : Int
  closeBelow : Bool
deriving DecidableEq, Repr

namespace Binary

/-- The magnitude of the double with the given bits. -/
def ofBits (b : UInt64) : Binary :=
  let e := (b >>> 52).toNat % 2048
  let f := b.toNat % 4503599627370496
  if e = 0 then ⟨f, -1074, false⟩
  else ⟨4503599627370496 + f, (e : Int) - 1075, f = 0 && 1 < e⟩

/-- The scale `2 ^ (exponent - 2)` as a fraction: quarters of the last bit are whole numbers. -/
def scale (b : Binary) : Nat × Nat :=
  let e := b.exponent - 2
  (Nat.pow 2 e.toNat, Nat.pow 2 (-e).toNat)

/-- The position of the first decimal digit of a positive number: `10 ^ p ≤ x < 10 ^ (p + 1)` for
the fraction `num / den`. -/
def firstDigit (num den : Nat) : Int :=
  if den ≤ num then ((Nat.toDigits 10 (num / den)).length : Int) - 1
  else -((Nat.toDigits 10 ((den - 1) / num)).length : Int)

/-- The greatest multiple of `10 ^ k` at most `num / den`, in units of `10 ^ k`. -/
def floorAt (num den : Nat) (k : Int) : Nat :=
  num * Nat.pow 10 (-k).toNat / (den * Nat.pow 10 k.toNat)

/-- Where the grid point `c · 10 ^ k` lies in the rounding interval of a number: the points are
compared with the ends after both are multiplied by the denominators. -/
def covers (b : Binary) (c : Nat) (k : Int) : Bool :=
  let (num, den) := b.scale
  let point := c * Nat.pow 10 k.toNat * den
  let unit := num * Nat.pow 10 (-k).toNat
  let low := (4 * b.significand - if b.closeBelow then 1 else 2) * unit
  let high := (4 * b.significand + 2) * unit
  if b.significand % 2 = 0 then low ≤ point && point ≤ high else low < point && point < high

/-- Of the grid points `c` and `c + 1` around a number, whether the upper one is taken when both
read back: it is nearer, or as near and even. -/
def prefersUpper (b : Binary) (c : Nat) (k : Int) : Bool :=
  let (num, den) := b.scale
  let middle := (2 * c + 1) * Nat.pow 10 k.toNat * den
  let value := 8 * b.significand * num * Nat.pow 10 (-k).toNat
  middle < value || (middle == value && c % 2 == 1)

/-- The point of the grid of `n` digits that reads back as the number, if there is one. -/
def onGrid? (b : Binary) (n : Nat) : Option Scaled :=
  let (num, den) := b.scale
  let k := firstDigit (4 * b.significand * num) den - n + 1
  let c := floorAt (4 * b.significand * num) den k
  match b.covers c k, b.covers (c + 1) k with
  | true, true => some ⟨if b.prefersUpper c k then c + 1 else c, k⟩
  | true, false => some ⟨c, k⟩
  | false, true => some ⟨c + 1, k⟩
  | false, false => none

/-- The shortest decimal that reads back as the number; seventeen digits always do. -/
def shortest (b : Binary) : Scaled :=
  ((List.range 17).findSome? fun n => b.onGrid? (n + 1)).getD ⟨0, 0⟩

end Binary

end BrokerNode.Decimal
