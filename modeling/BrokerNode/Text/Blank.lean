/-
BrokerNode/Text/Blank.lean

White space, and texts without the white space around them.

A character is blank when it has the Unicode property White_Space: the ASCII controls from tab to
carriage return, the space, and the spaces and separators outside ASCII.  The zero width space, the
byte order mark and the Mongolian vowel separator are not blank.

A text is a list of characters here, as everywhere below the outer layer of the library.
-/

namespace BrokerNode.Text

/-- The code points with the property White_Space. -/
def isBlank (c : Char) : Bool :=
  let n := c.toNat
  (9 ≤ n && n ≤ 13) || n == 32 || n == 0x85 || n == 0xA0 || n == 0x1680 ||
    (0x2000 ≤ n && n ≤ 0x200A) || n == 0x2028 || n == 0x2029 || n == 0x202F || n == 0x205F ||
    n == 0x3000

/-- A text without the blanks that it starts with. -/
def trimStart (s : List Char) : List Char := s.dropWhile isBlank

/-- A text without the blanks that it ends with. -/
def trimEnd (s : List Char) : List Char := (s.reverse.dropWhile isBlank).reverse

/-- A text without the blanks around it. -/
def trim (s : List Char) : List Char := trimEnd (trimStart s)

/-! ### Padding -/

@[simp] theorem trimStart_append_of_all {pad : List Char} (h : pad.all isBlank = true)
    (s : List Char) : trimStart (pad ++ s) = trimStart s :=
  List.dropWhile_append_of_pos (List.all_eq_true.mp h)

@[simp] theorem trimEnd_append_of_all {pad : List Char} (h : pad.all isBlank = true)
    (s : List Char) : trimEnd (s ++ pad) = trimEnd s := by
  have hreverse : ∀ c ∈ pad.reverse, isBlank c = true := by simpa using h
  rw [trimEnd, List.reverse_append, List.dropWhile_append_of_pos hreverse, trimEnd]

end BrokerNode.Text
