/-
BrokerNode/Uuid.lean

Random identifiers: 128 bits, of which six say that the others are random.
-/

namespace BrokerNode

/-- An identifier of 128 bits. -/
structure Uuid where
  high : UInt64
  low : UInt64
deriving DecidableEq, Repr

namespace Uuid

/-- The identifier with the given random bits, marked as such: version 4 of the standard layout. -/
def random (high low : UInt64) : Uuid where
  high := (high &&& 0xFFFFFFFFFFFF0FFF) ||| 0x4000
  low := (low &&& 0x3FFFFFFFFFFFFFFF) ||| 0x8000000000000000

/-- The last `count` hexadecimal digits of a number. -/
def hex (count n : Nat) : List Char :=
  (List.range count).reverse.map fun i => Nat.digitChar ((n >>> (4 * i)) % 16)

/-- The text of an identifier: five groups of hexadecimal digits. -/
def render (u : Uuid) : String :=
  let h := u.high.toNat
  let l := u.low.toNat
  "-".intercalate
    ([hex 8 (h >>> 32), hex 4 (h >>> 16), hex 4 h, hex 4 (l >>> 48), hex 12 l].map String.ofList)

end Uuid

end BrokerNode
