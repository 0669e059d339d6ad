/-
BrokerNode/Text/CodePoints.lean

Sets of code points, given by the places where membership changes.

A set is an ascending list of code points.  Going upward from zero, outside the set, each entry is
the first code point of the next run: the first entry begins the set, the second is the first code
point after that run, and so on.  The tables of character properties are written this way.
-/

namespace BrokerNode.Text

/-- A set of code points as the ascending list of the places where membership changes. -/
abbrev CodePoints := List Nat

namespace CodePoints

/-- A code point belongs to the set when an odd number of changes lie at or below it. -/
def contains (changes : CodePoints) (n : Nat) : Bool :=
  (changes.takeWhile (· ≤ n)).length % 2 == 1

end CodePoints

end BrokerNode.Text
