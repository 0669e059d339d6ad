/-
BrokerNode/Text/Numeral.lean

Unsigned decimal numerals, and how a number is written.

A numeral is an optional plus sign and then one or more ASCII digits, nothing else: no blanks, no
minus sign, no digits of other scripts.  Any number of leading zeros is allowed.

`value?` reads a numeral digit by digit, and gives up before the number exceeds a bound, so a reader of
bounded numbers never wraps around.  What it reads is the value of the numeral (`value?_eq_some_iff`).
-/

namespace BrokerNode.Text.Numeral

/-- The digits of a numeral: what follows the plus sign, if there is one. -/
def digits : List Char → List Char
  | '+' :: s => s
  | s => s

/-- A text is a numeral when it has digits and nothing but digits after the optional sign. -/
def isNumeral (s : List Char) : Bool := !(digits s).isEmpty && (digits s).all Char.isDigit

/-- Takes digits into `n`, the most significant first.  It stops at a character that is no digit, and
where the product or the sum would exceed the bound. -/
def accumulate (bound : Nat) (n : Nat) : List Char → Option Nat
  | [] => some n
  | c :: s =>
    if !c.isDigit || bound < 10 * n || bound < 10 * n + (c.toNat - '0'.toNat) then none
    else accumulate bound (10 * n + (c.toNat - '0'.toNat)) s

/-- The value of a numeral, if `s` is one and its value is at most `bound`. -/
def value? (bound : Nat) (s : List Char) : Option Nat :=
  if (digits s).isEmpty then none else accumulate bound 0 (digits s)

/-- The decimal text of a number, without leading zeros. -/
def write (n : Nat) : List Char := Nat.toDigits 10 n

/-! ### Values -/

/-- A number with digits appended is at least as great. -/
theorem le_ofDigitChars (ds : List Char) (n : Nat) : n ≤ Nat.ofDigitChars 10 ds n := by
  induction ds generalizing n with
  | nil => simp
  | cons d ds ih =>
    rw [Nat.ofDigitChars_cons]
    exact Nat.le_trans (by omega) (ih _)

/-- As a number never gets smaller on the way, the loop stops exactly where the value of all the digits
would exceed the bound. -/
theorem accumulate_eq_some_iff {bound n m : Nat} {s : List Char} (hn : n ≤ bound) :
    accumulate bound n s = some m ↔
      s.all Char.isDigit = true ∧ Nat.ofDigitChars 10 s n = m ∧ m ≤ bound := by
  induction s generalizing n with
  | nil =>
    simp only [accumulate, Option.some.injEq, List.all_nil, Nat.ofDigitChars_nil, true_and]
    constructor
    · rintro rfl
      exact ⟨rfl, hn⟩
    · exact And.left
  | cons c s ih =>
    rw [accumulate, Nat.ofDigitChars_cons, List.all_cons, Bool.and_eq_true]
    split
    · next hstop =>
      simp only [Bool.or_eq_true, Bool.not_eq_true', decide_eq_true_eq] at hstop
      constructor
      · intro h
        cases h
      · rintro ⟨⟨hdigit, -⟩, rfl, hle⟩
        have hbound := Nat.le_trans (le_ofDigitChars s (10 * n + (c.toNat - '0'.toNat))) hle
        rcases hstop with (hother | hproduct) | hsum
        · rw [hdigit] at hother
          cases hother
        · omega
        · omega
    · next hgo =>
      simp only [Bool.or_eq_true, Bool.not_eq_true', decide_eq_true_eq, not_or, Nat.not_lt,
        Bool.not_eq_false] at hgo
      obtain ⟨⟨hdigit, -⟩, hsum⟩ := hgo
      rw [ih hsum, hdigit]
      simp only [true_and]

/-- A number is read exactly from the numerals of that value within the bound. -/
theorem value?_eq_some_iff {bound n : Nat} {s : List Char} :
    value? bound s = some n ↔
      isNumeral s = true ∧ Nat.ofDigitChars 10 (digits s) 0 = n ∧ n ≤ bound := by
  rw [value?, isNumeral, Bool.and_eq_true, Bool.not_eq_true']
  split
  · next hempty =>
    rw [hempty]
    simp
  · next hsome =>
    rw [accumulate_eq_some_iff (Nat.zero_le bound)]
    simp only [hsome, true_and]

/-! ### Written numbers -/

/-- The written form starts with a digit, so it has no sign to drop. -/
theorem digits_write (n : Nat) : digits (write n) = write n := by
  unfold digits
  split
  · next s hs =>
    have hmem : '+' ∈ Nat.toDigits 10 n := by
      have : write n = '+' :: s := hs
      simp [write] at this
      simp [this]
    exact absurd (Nat.isDigit_of_mem_toDigits (by decide) (by decide) hmem) (by decide)
  · rfl

/-- The written form is a numeral. -/
theorem isNumeral_write (n : Nat) : isNumeral (write n) = true := by
  simp only [isNumeral, digits_write, Bool.and_eq_true]
  refine ⟨?_, ?_⟩
  · simp [write, Nat.toDigits_ne_nil]
  · rw [List.all_eq_true]
    intro c hc
    exact Nat.isDigit_of_mem_toDigits (by decide) (by decide) hc

end BrokerNode.Text.Numeral
