/-
BrokerNode/Json/Basic.lean

JSON values.

A number is either whole, within the range from -2^63 to 2^64 - 1, or a double; the two never equal
each other, so 1 and 1.0 are different values.  Two doubles are the same number when they compare
equal, hence 0.0 and -0.0 are.

An object keeps its members in ascending order of their names, which is also the order of the names'
bytes, and holds each name once: `insert` puts a member into its place and replaces an earlier one
of the same name.
-/

namespace BrokerNode

/-- A JSON number. -/
inductive Json.Number where
  | whole (n : Int) (bounds : -9223372036854775808 ≤ n ∧ n < 18446744073709551616)
  | float (x : Float)

/-- A JSON value. -/
inductive Json where
  | null
  | bool (b : Bool)
  | number (n : Json.Number)
  | string (s : String)
  | list (elements : List Json)
  | object (members : List (String × Json))

namespace Json

instance : Inhabited Json := ⟨.null⟩

/-- An unsigned number of 64 bits. -/
def Number.ofUInt64 (n : UInt64) : Number :=
  .whole n.toNat ⟨by have := n.toNat_lt; omega, by have := n.toNat_lt; omega⟩

/-- The text of a string value. -/
def string? : Json → Option String
  | .string s => some s
  | _ => none

/-- The members of an object after one more, which replaces an earlier one of its name. -/
def insert (name : String) (value : Json) : List (String × Json) → List (String × Json)
  | [] => [(name, value)]
  | (k, v) :: members =>
    if name < k then (name, value) :: (k, v) :: members
    else if name = k then (name, value) :: members
    else (k, v) :: insert name value members

/-! ### Sameness -/

/-- Sameness of numbers: equal, and held in the same way. -/
def Number.same : Number → Number → Bool
  | .whole m _, .whole n _ => m == n
  | .float x, .float y => x == y
  | _, _ => false

mutual

/-- Sameness of values. -/
def same : Json → Json → Bool
  | .null, .null => true
  | .bool a, .bool b => a == b
  | .number m, .number n => m.same n
  | .string s, .string t => s == t
  | .list xs, .list ys => sameElements xs ys
  | .object ms, .object ns => sameMembers ms ns
  | _, _ => false

/-- Sameness of lists, element by element. -/
def sameElements : List Json → List Json → Bool
  | [], [] => true
  | x :: xs, y :: ys => same x y && sameElements xs ys
  | _, _ => false

/-- Sameness of members, name by name. -/
def sameMembers : List (String × Json) → List (String × Json) → Bool
  | [], [] => true
  | (k, x) :: ms, (l, y) :: ns => k == l && same x y && sameMembers ms ns
  | _, _ => false

end

instance : BEq Json := ⟨same⟩

/-! ### Values without doubles -/

/-- Whether a number is whole. -/
def Number.isWhole : Number → Bool
  | .whole _ _ => true
  | .float _ => false

mutual

/-- Whether no number in a value is a double. -/
def allWhole : Json → Bool
  | .number n => n.isWhole
  | .list xs => allWholeElements xs
  | .object ms => allWholeMembers ms
  | _ => true

/-- Whether no number in a list is a double. -/
def allWholeElements : List Json → Bool
  | [] => true
  | x :: xs => allWhole x && allWholeElements xs

/-- Whether no number in an object is a double. -/
def allWholeMembers : List (String × Json) → Bool
  | [] => true
  | (_, x) :: ms => allWhole x && allWholeMembers ms

end

end Json

end BrokerNode
