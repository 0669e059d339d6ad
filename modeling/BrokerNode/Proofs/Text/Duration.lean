/-
BrokerNode/Proofs/Text/Duration.lean

What the text of a duration says.

An amount of time is written as a decimal number with a unit behind it, and stands for a number of seconds
(`Amount.seconds`).  A text can be taken for an amount in one way only (`Amount.text_injective`), so there
is no question of what it says.  The text of a duration is that of an amount without superfluous zeros
(`duration_eq_text`, `isTidy_ofMilliseconds`), and the amount is exact (`seconds_ofMilliseconds`): zeros
that are left off behind the point change nothing (`part_append_zeros`).
-/
import BrokerNode.Proofs.Json.NumberText
import BrokerNode.Text.Duration
import Mathlib.Data.List.DropRight
import Mathlib.Data.Rat.Cast.CharZero
import Mathlib.Tactic.FieldSimp
import Mathlib.Tactic.NormNum
import Mathlib.Tactic.Ring

namespace BrokerNode.Text

open Json.NumberLiteral (IsDigits spanDigits spanDigits_append)

/-! ### Amounts of time -/

/-- A unit of time. -/
inductive TimeUnit where
  | nanosecond
  | microsecond
  | millisecond
  | second

namespace TimeUnit

/-- How a unit is written. -/
def symbol : TimeUnit → List Char
  | nanosecond => ['n', 's']
  | microsecond => ['µ', 's']
  | millisecond => ['m', 's']
  | second => ['s']

/-- A unit in seconds. -/
def seconds : TimeUnit → ℚ
  | nanosecond => 1 / 1000000000
  | microsecond => 1 / 1000000
  | millisecond => 1 / 1000
  | second => 1

theorem symbol_injective {u v : TimeUnit} (h : u.symbol = v.symbol) : u = v := by
  cases u <;> cases v <;> simp_all [symbol]

/-- A unit is written with letters only. -/
theorem symbol_letters (u : TimeUnit) :
    ∀ c ∈ u.symbol, c.isDigit = false ∧ c ≠ '.' ∧ c ≠ ' ' := by
  cases u <;> simp [symbol]

theorem head?_symbol_isDigit (u : TimeUnit) : ∀ c ∈ u.symbol.head?, c.isDigit = false :=
  fun c hc => (u.symbol_letters c (List.mem_of_head? hc)).1

/-- A unit is not taken for a point with digits behind it. -/
theorem symbol_ne_point (u : TimeUnit) (s : List Char) : u.symbol ≠ '.' :: s := by
  intro h
  have hpoint : '.' ∈ u.symbol := by simp [h]
  exact (u.symbol_letters '.' hpoint).2.1 rfl

end TimeUnit

/-- What the digits behind a point stand for. -/
def part (ds : List Char) : ℚ := Nat.ofDigitChars 10 ds 0 / 10 ^ ds.length

/-- An amount of time as it is written. -/
@[ext]
structure Amount where
  whole : List Char
  fraction : List Char
  unit : TimeUnit

namespace Amount

/-- The point of an amount and what stands behind it. -/
def tail (a : Amount) : List Char :=
  (if a.fraction.isEmpty then [] else '.' :: a.fraction) ++ a.unit.symbol

/-- The text of an amount. -/
def text (a : Amount) : List Char := a.whole ++ a.tail

/-- How many seconds an amount stands for. -/
def seconds (a : Amount) : ℚ := (Nat.ofDigitChars 10 a.whole 0 + part a.fraction) * a.unit.seconds

/-- An amount whose number is a decimal one. -/
structure IsProper (a : Amount) : Prop where
  whole : IsDigits a.whole
  fraction : a.fraction.all Char.isDigit = true

/-- An amount whose number has no superfluous zeros. -/
structure IsTidy (a : Amount) : Prop extends a.IsProper where
  leading : a.whole = ['0'] ∨ a.whole.head? ≠ some '0'
  trailing : a.fraction.getLast? ≠ some '0'

/-! ### One way to take a text -/

theorem head?_tail_isDigit (a : Amount) : ∀ c ∈ a.tail.head?, c.isDigit = false := by
  intro c hc
  unfold tail at hc
  split at hc
  · exact a.unit.head?_symbol_isDigit c hc
  · cases hc
    decide

variable {a b : Amount}

/-- What stands behind the whole part gives the fraction and the unit. -/
theorem tail_injective (ha : a.IsProper) (hb : b.IsProper) (h : a.tail = b.tail) :
    a.fraction = b.fraction ∧ a.unit = b.unit := by
  unfold tail at h
  split at h <;> split at h
  · next hfa hfb =>
    rw [List.isEmpty_iff] at hfa hfb
    exact ⟨hfa.trans hfb.symm, TimeUnit.symbol_injective h⟩
  · exact absurd h (TimeUnit.symbol_ne_point _ _)
  · exact absurd h.symm (TimeUnit.symbol_ne_point _ _)
  · -- the digits behind the point end where the unit starts
    have hrest : a.fraction ++ a.unit.symbol = b.fraction ++ b.unit.symbol := (List.cons.inj h).2
    have hspan := spanDigits_append ha.fraction a.unit.head?_symbol_isDigit
    rw [hrest, spanDigits_append hb.fraction b.unit.head?_symbol_isDigit] at hspan
    obtain ⟨hfraction, hunit⟩ := Prod.mk.inj hspan
    exact ⟨hfraction.symm, TimeUnit.symbol_injective hunit.symm⟩

/-- Proper amounts with the same text are the same. -/
theorem text_injective (ha : a.IsProper) (hb : b.IsProper) (h : a.text = b.text) : a = b := by
  -- the whole part ends where the point or the unit stands
  have hspan := spanDigits_append ha.whole.2 a.head?_tail_isDigit
  rw [← text, h, text, spanDigits_append hb.whole.2 b.head?_tail_isDigit] at hspan
  obtain ⟨hwhole, htail⟩ := Prod.mk.inj hspan
  obtain ⟨hfraction, hunit⟩ := tail_injective ha hb htail.symm
  exact Amount.ext hwhole.symm hfraction hunit

/-- There is no space in the text of a proper amount. -/
theorem space_notMem_text (h : a.IsProper) : ' ' ∉ a.text := by
  have hdigits : ∀ ds : List Char, ds.all Char.isDigit = true → ' ' ∉ ds := by
    intro ds hds hmem
    exact absurd (List.all_eq_true.mp hds ' ' hmem) (by decide)
  have hunit : ' ' ∉ a.unit.symbol := fun hmem => (a.unit.symbol_letters ' ' hmem).2.2 rfl
  rw [text, tail, List.mem_append, List.mem_append, not_or, not_or]
  refine ⟨hdigits _ h.whole.2, ?_, hunit⟩
  split
  · simp
  · rw [List.mem_cons, not_or]
    exact ⟨by decide, hdigits _ h.fraction⟩

end Amount

/-! ### Decimals of thousandths -/

/-- Zeros at the end of a fraction do not count. -/
theorem part_append_zeros (ds : List Char) (k : Nat) :
    part (ds ++ List.replicate k '0') = part ds := by
  rw [part, part, Nat.ofDigitChars_append, Nat.ofDigitChars_replicate_zero, List.length_append,
    List.length_replicate, pow_add]
  push_cast
  field_simp

/-- The three decimals of a number of thousandths. -/
def threeDecimals (n : Nat) : List Char := [n / 100 % 10, n / 10 % 10, n % 10].map Nat.digitChar

theorem thousandths_eq (n : Nat) : thousandths n = (threeDecimals n).rdropWhile (· == '0') := rfl

/-- The decimals that are left off are zeros. -/
theorem exists_threeDecimals_eq (n : Nat) :
    ∃ k, threeDecimals n = thousandths n ++ List.replicate k '0' := by
  refine ⟨((threeDecimals n).rtakeWhile (· == '0')).length, ?_⟩
  have hzeros : (threeDecimals n).rtakeWhile (· == '0') =
      List.replicate ((threeDecimals n).rtakeWhile (· == '0')).length '0' := by
    rw [List.eq_replicate_iff]
    refine ⟨rfl, fun c hc => ?_⟩
    have hzero := List.mem_rtakeWhile_imp hc
    exact beq_iff_eq.mp hzero
  rw [← hzeros, thousandths_eq, List.rdropWhile_append_rtakeWhile]

theorem isDigit_threeDecimals (n : Nat) : (threeDecimals n).all Char.isDigit = true := by
  have hdigit : ∀ k, (Nat.digitChar (k % 10)).isDigit = true := by
    intro k
    rw [Nat.isDigit_digitChar, decide_eq_true_eq]
    exact Nat.mod_lt k (by decide)
  simp only [threeDecimals, List.map_cons, List.map_nil, List.all_cons, List.all_nil, hdigit,
    Bool.and_self]

theorem isDigit_thousandths (n : Nat) : (thousandths n).all Char.isDigit = true := by
  obtain ⟨k, hk⟩ := exists_threeDecimals_eq n
  have hall := isDigit_threeDecimals n
  rw [hk, List.all_append, Bool.and_eq_true] at hall
  exact hall.1

theorem getLast?_thousandths (n : Nat) : (thousandths n).getLast? ≠ some '0' := by
  rw [thousandths_eq]
  by_cases hnil : (threeDecimals n).rdropWhile (· == '0') = []
  · simp [hnil]
  · have hlast := List.rdropWhile_last_not (· == '0') (threeDecimals n) hnil
    rw [List.getLast?_eq_some_getLast hnil]
    simpa using hlast

/-- The decimals of a number of thousandths stand for it. -/
theorem part_thousandths {n : Nat} (h : n < 1000) : part (thousandths n) = n / 1000 := by
  obtain ⟨k, hk⟩ := exists_threeDecimals_eq n
  have hvalue : Nat.ofDigitChars 10 (threeDecimals n) 0 = n := by
    simp only [threeDecimals, List.map_cons, List.map_nil]
    rw [Nat.ofDigitChars_cons_digitChar_of_lt_ten (by omega),
      Nat.ofDigitChars_cons_digitChar_of_lt_ten (by omega),
      Nat.ofDigitChars_cons_digitChar_of_lt_ten (by omega), Nat.ofDigitChars_nil]
    omega
  rw [← part_append_zeros _ k, ← hk, part, hvalue]
  norm_num [threeDecimals]

/-! ### The amount of a duration -/

namespace Amount

/-- The amount that a duration in milliseconds is written as. -/
def ofMilliseconds (ms : Nat) : Amount :=
  if ms = 0 then ⟨['0'], [], .nanosecond⟩
  else if ms < 1000 then ⟨Nat.toDigits 10 ms, [], .millisecond⟩
  else ⟨Nat.toDigits 10 (ms / 1000), thousandths (ms % 1000), .second⟩

theorem duration_eq_text (ms : Nat) : duration ms = (ofMilliseconds ms).text := by
  unfold duration ofMilliseconds
  split
  · rfl
  split
  · rfl
  · rw [text, tail, List.append_assoc]
    rfl

/-- It has no superfluous zeros. -/
theorem isTidy_ofMilliseconds (ms : Nat) : (ofMilliseconds ms).IsTidy := by
  have hdigits := fun n => Decimal.isDigits_toDigits n
  unfold ofMilliseconds
  split
  · exact ⟨⟨Json.NumberLiteral.isDigits_zero, rfl⟩, Or.inl rfl, by simp⟩
  split
  · next hpos _ =>
    exact ⟨⟨hdigits ms, rfl⟩, Or.inr (Decimal.head?_toDigits (Nat.pos_of_ne_zero hpos)), by simp⟩
  · next hsecond =>
    have hpos : 0 < ms / 1000 := by omega
    exact ⟨⟨hdigits _, isDigit_thousandths _⟩, Or.inr (Decimal.head?_toDigits hpos),
      getLast?_thousandths _⟩

/-- It is exact. -/
theorem seconds_ofMilliseconds (ms : Nat) : (ofMilliseconds ms).seconds = ms / 1000 := by
  unfold ofMilliseconds
  split
  · next hzero =>
    subst hzero
    have hdigits : Nat.ofDigitChars 10 ['0'] 0 = 0 := rfl
    simp [seconds, part, hdigits]
  split
  · rw [seconds, part, Nat.ofDigitChars_ten_toDigits, Nat.ofDigitChars_nil, TimeUnit.seconds]
    push_cast
    ring
  · -- the seconds and the thousandths make up the whole
    have hsplit : (ms : ℚ) = 1000 * (ms / 1000 : ℕ) + (ms % 1000 : ℕ) := by
      exact_mod_cast (Nat.div_add_mod ms 1000).symm
    rw [seconds, part_thousandths (Nat.mod_lt ms (by decide)), Nat.ofDigitChars_ten_toDigits,
      TimeUnit.seconds, hsplit]
    ring

end Amount

/-! ### Last words -/

/-- The last word of a text: what stands behind its last space. -/
def lastWord (s : List Char) : List Char := s.rtakeWhile (· ≠ ' ')

theorem lastWord_append {w : List Char} (h : ' ' ∉ w) (s : List Char) :
    lastWord (s ++ ' ' :: w) = w := by
  have hword : ∀ c ∈ w.reverse, decide (c ≠ ' ') = true := by
    intro c hc
    rw [decide_eq_true_eq]
    rintro rfl
    exact h (List.mem_reverse.mp hc)
  rw [lastWord, List.rtakeWhile, List.reverse_append, List.reverse_cons, List.append_assoc,
    List.takeWhile_append_of_pos hword]
  simp

end BrokerNode.Text
