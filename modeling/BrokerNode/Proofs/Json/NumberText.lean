/-
BrokerNode/Proofs/Json/NumberText.lean

Numbers read back from the text they are written as.

Every number is written as the text of a proper literal: a whole number by its decimal digits, a
double in either layout, whatever its bits (`write_eq_text`).  So what a written number is read back as
depends on nothing but the number, and `Number.reread` names it (`read_write`).  A whole number is read
back as itself (`reread_whole`).  A double is read back as whatever its digits stand for, which need
not be the same double: reading rounds more than once.
-/
import BrokerNode.Proofs.Json.Literal
import BrokerNode.Text.Numeral
import Mathlib.Tactic.Set

namespace BrokerNode

namespace Decimal

/-! ### Decimal digits -/

/-- The decimal text of a number has digits, and nothing but digits. -/
theorem isDigits_toDigits (n : Nat) : Json.NumberLiteral.IsDigits (Nat.toDigits 10 n) := by
  refine ⟨Nat.toDigits_ne_nil, ?_⟩
  rw [List.all_eq_true]
  intro c hc
  exact Nat.isDigit_of_mem_toDigits (by decide) (by decide) hc

/-- The decimal text of a positive number starts with a digit other than zero. -/
theorem head?_toDigits {n : Nat} (h : 0 < n) : (Nat.toDigits 10 n).head? ≠ some '0' := by
  induction n using Nat.strongRecOn with
  | _ n ih =>
    rcases Nat.lt_or_ge n 10 with hlt | hge
    · rw [Nat.toDigits_of_lt_base hlt]
      have hchar : ∀ k < 10, 0 < k → [Nat.digitChar k].head? ≠ some '0' := by decide
      exact hchar n hlt h
    · rw [Nat.toDigits_of_base_le (by decide) hge]
      have hdiv := ih (n / 10) (by omega) (by omega)
      rwa [List.head?_append_of_ne_nil _ Nat.toDigits_ne_nil]

/-! ### The digits of a double -/

namespace Binary

/-- A point that covers a positive double is positive. -/
theorem pos_of_covers {b : Binary} (hb : b.significand ≠ 0) {c : Nat} {k : Int}
    (h : b.covers c k = true) : 0 < c := by
  rcases Nat.eq_zero_or_pos c with rfl | hc
  · exfalso
    -- the point zero lies below the lower end of the interval
    have hunit : 0 < b.scale.1 * Nat.pow 10 (-k).toNat :=
      Nat.mul_pos (Nat.pow_pos (by decide)) (Nat.pow_pos (by decide))
    have hlow : 0 < (4 * b.significand - if b.closeBelow then 1 else 2) *
        (b.scale.1 * Nat.pow 10 (-k).toNat) := by
      apply Nat.mul_pos _ hunit
      split <;> omega
    simp only [covers, Nat.zero_mul] at h
    split at h
    · simp only [Bool.and_eq_true, decide_eq_true_eq] at h
      exact absurd h.1 (Nat.not_le.mpr hlow)
    · simp at h
  · exact hc

/-- The decimal on a grid that reads back as a positive double is positive. -/
theorem pos_of_onGrid? {b : Binary} (hb : b.significand ≠ 0) {n : Nat} {d : Scaled}
    (h : b.onGrid? n = some d) : 0 < d.digits := by
  simp only [onGrid?] at h
  split at h
  · next hc _ =>
    cases h
    show 0 < if _ then _ else _
    split
    · exact Nat.succ_pos _
    · exact pos_of_covers hb hc
  · next hc _ =>
    cases h
    exact pos_of_covers hb hc
  · cases h
    exact Nat.succ_pos _
  · cases h

/-- The shortest decimal for a positive double is positive, or the zero that stands for none. -/
theorem shortest_pos {b : Binary} (hb : b.significand ≠ 0) :
    0 < b.shortest.digits ∨ b.shortest = ⟨0, 0⟩ := by
  unfold shortest
  rcases h : (List.range 17).findSome? fun n => b.onGrid? (n + 1) with - | d
  · exact Or.inr rfl
  · obtain ⟨n, -, hn⟩ := List.exists_of_findSome?_eq_some h
    exact Or.inl (pos_of_onGrid? hb hn)

end Binary

end Decimal

namespace Json.NumberLiteral

open Decimal (Layout Scaled)

/-! ### Doubles as literals -/

theorem isDigits_zero : IsDigits ['0'] := ⟨by simp, rfl⟩

/-- Digits without the zeros at their end: still digits, and still with the same first one. -/
theorem dropZeros {s : List Char} (hs : IsDigits s) (hz : s.head? ≠ some '0') :
    ∃ d ds, (s.reverse.dropWhile (· == '0')).reverse = d :: ds ∧ d ≠ '0' ∧
      (d :: ds).all Char.isDigit = true := by
  obtain ⟨hne, hall⟩ := hs
  obtain ⟨d, t, rfl⟩ := List.exists_cons_of_ne_nil hne
  have hd : d ≠ '0' := by simpa using hz
  have hdrop : ((d :: t).reverse.dropWhile (· == '0')).reverse =
      d :: (t.reverse.dropWhile (· == '0')).reverse := by
    rw [List.reverse_cons, List.dropWhile_append]
    split
    · next hnil =>
      rw [List.isEmpty_iff] at hnil
      simp [hnil, hd]
    · simp
  refine ⟨d, _, hdrop, hd, ?_⟩
  rw [← hdrop, List.all_eq_true]
  intro c hc
  rw [List.mem_reverse] at hc
  have hmem := (List.dropWhile_sublist _).mem hc
  exact List.all_eq_true.mp hall c (List.mem_reverse.mp hmem)

/-- Digits with the point in place are the text of a literal with a fraction. -/
theorem inPlace_eq_text {d : Char} {ds : List Char} (hd : d ≠ '0')
    (hall : (d :: ds).all Char.isDigit = true) (x : Int) :
    ∃ w f, Layout.inPlace (d :: ds) x = w ++ '.' :: f ∧ IsDigits w ∧
      (w = ['0'] ∨ w.head? ≠ some '0') ∧ IsDigits f := by
  simp only [Layout.inPlace]
  split
  · -- below one: a zero, the point, and zeros before the digits
    refine ⟨['0'], List.replicate (-x - 1).toNat '0' ++ d :: ds, rfl, isDigits_zero, Or.inl rfl, ?_⟩
    refine ⟨by simp, ?_⟩
    rw [List.all_append, hall, Bool.and_true, List.all_eq_true]
    intro c hc
    rw [(List.mem_replicate.mp hc).2]
    decide
  · -- from one on: the point stands behind `n` digits, which are filled up with zeros
    set n := x.toNat + 1 with hn
    have hall' := List.all_eq_true.mp hall
    refine ⟨(d :: ds).take n ++ List.replicate (n - (d :: ds).length) '0',
      if ((d :: ds).drop n).isEmpty then ['0'] else (d :: ds).drop n, rfl, ⟨?_, ?_⟩, Or.inr ?_, ?_⟩
    · simp [hn]
    · rw [List.all_append, Bool.and_eq_true, List.all_eq_true, List.all_eq_true]
      refine ⟨fun c hc => hall' c (List.mem_of_mem_take hc), fun c hc => ?_⟩
      rw [(List.mem_replicate.mp hc).2]
      decide
    · simp [hn, hd]
    · split
      · exact isDigits_zero
      · next hne =>
        refine ⟨by simpa using hne, ?_⟩
        rw [List.all_eq_true]
        exact fun c hc => hall' c (List.mem_of_mem_drop hc)

/-- Digits with an exponent are the text of a literal with an exponent. -/
theorem withExponent_eq_text {d : Char} {ds : List Char} (hd : d ≠ '0')
    (hall : (d :: ds).all Char.isDigit = true) (x : Int) :
    ∃ l : NumberLiteral, Layout.withExponent (d :: ds) x = l.text ∧ l.Proper ∧
      l.negative = false := by
  rw [List.all_cons, Bool.and_eq_true] at hall
  refine ⟨⟨false, [d], if ds.isEmpty then none else some ds,
    some (decide (x < 0), Nat.toDigits 10 x.natAbs)⟩, ?_, ?_, rfl⟩
  · simp only [Layout.withExponent, text, List.drop_one, List.tail_cons, List.take_succ_cons,
      List.take_zero]
    split <;> simp [fractionText, exponentText]
  · refine ⟨⟨by simp, by simp [hall.1]⟩, Or.inr (by simpa using hd), ?_, ?_⟩
    · intro f hf
      split at hf
      · cases hf
      · next hne =>
        cases hf
        exact ⟨by simpa using hne, hall.2⟩
    · intro e he
      cases he
      exact Decimal.isDigits_toDigits _

/-- A positive decimal number is written as the text of a literal without a sign. -/
theorem layout_write_eq_text (layout : Layout) {d : Scaled} (h : 0 < d.digits) :
    ∃ l : NumberLiteral, layout.write d = l.text ∧ l.Proper ∧ l.negative = false := by
  obtain ⟨c, cs, hcs, hc, hall⟩ :=
    dropZeros (Decimal.isDigits_toDigits d.digits) (Decimal.head?_toDigits h)
  simp only [Layout.write, hcs]
  split
  · obtain ⟨w, f, heq, hw, hz, hf⟩ := inPlace_eq_text hc hall
      (d.exponent + (Nat.toDigits 10 d.digits).length - 1)
    refine ⟨⟨false, w, some f, none⟩, ?_, ⟨hw, hz, ?_, ?_⟩, rfl⟩
    · rw [heq]
      simp [text, fractionText, exponentText]
    · intro g hg
      cases hg
      exact hf
    · intro e he
      cases he
  · exact withExponent_eq_text hc hall _

/-- A double is written as the text of a literal, whatever its bits. -/
theorem writeFloat_eq_text (layout : Layout) (hl : layout.least ≤ 0) (hg : 0 ≤ layout.greatest)
    (x : Float) : ∃ l : NumberLiteral, layout.writeFloat x = l.text ∧ l.Proper := by
  -- the literal is found for the digits first, and then gets its sign
  suffices h : ∃ l : NumberLiteral, (if (Decimal.Binary.ofBits x.toBits).significand = 0
      then ['0', '.', '0'] else layout.write (Decimal.Binary.ofBits x.toBits).shortest) = l.text ∧
      l.Proper ∧ l.negative = false by
    obtain ⟨⟨negative, w, f, e⟩, heq, hp, hneg⟩ := h
    obtain rfl : negative = false := hneg
    refine ⟨⟨x.toBits >>> 63 = 1, w, f, e⟩, ?_, ⟨hp.digits, hp.leading, hp.fraction, hp.exponent⟩⟩
    simp only [Layout.writeFloat, heq]
    simp [text]
  have hzero : ∃ l : NumberLiteral, ['0', '.', '0'] = l.text ∧ l.Proper ∧
      l.negative = false := by
    refine ⟨⟨false, ['0'], some ['0'], none⟩, rfl, ⟨isDigits_zero, Or.inl rfl, ?_, ?_⟩,
      rfl⟩
    · intro f hf
      cases hf
      exact isDigits_zero
    · intro e he
      cases he
  split
  · exact hzero
  · next hb =>
    rcases Decimal.Binary.shortest_pos hb with hpos | hnone
    · exact layout_write_eq_text layout hpos
    · -- a grid on which no point reads back would leave a zero, which is a number, too
      rw [hnone]
      have hwrite : layout.write ⟨0, 0⟩ = ['0', '.', '0'] := by
        simp [Layout.write, Layout.inPlace, hl, hg]
      rw [hwrite]
      exact hzero

/-! ### Whole numbers as literals -/

/-- The literal of a whole number. -/
def ofInt (n : Int) : NumberLiteral := ⟨n < 0, Nat.toDigits 10 n.natAbs, none, none⟩

theorem writeInt_eq_text (n : Int) : writeInt n = (ofInt n).text := by
  by_cases h : n < 0 <;> simp [writeInt, ofInt, text, fractionText, exponentText, h]

theorem proper_ofInt (n : Int) : (ofInt n).Proper where
  digits := Decimal.isDigits_toDigits _
  leading := by
    rcases Nat.eq_zero_or_pos n.natAbs with h | h
    · left
      simp [ofInt, h]
    · exact Or.inr (Decimal.head?_toDigits h)
  fraction := by
    intro f hf
    cases hf
  exponent := by
    intro e he
    cases he

/-- Digits are all taken as long as the number that they make is within the limit. -/
theorem takeDigits_eq {limit : Nat} {ds : List Char} {n : Nat}
    (h : Nat.ofDigitChars 10 ds n ≤ limit) :
    takeDigits limit n ds = (Nat.ofDigitChars 10 ds n, []) := by
  induction ds generalizing n with
  | nil => simp [takeDigits]
  | cons d ds ih =>
    rw [Nat.ofDigitChars_cons] at h ⊢
    have hle : 10 * n + digitValue d ≤ limit := Nat.le_trans (Text.Numeral.le_ofDigitChars ds _) h
    rw [takeDigits, if_pos hle]
    exact ih h

/-- The literal of a whole number within the bounds stands for that number. -/
theorem toWhole?_ofInt {n : Int} (bounds : -9223372036854775808 ≤ n ∧ n < 18446744073709551616) :
    (ofInt n).toWhole? = some (.whole n bounds) := by
  have hdigits : Nat.ofDigitChars 10 (Nat.toDigits 10 n.natAbs) 0 = n.natAbs :=
    Nat.ofDigitChars_ten_toDigits
  -- the significand has room for every digit of a number within the bounds
  have htake : takeDigits maxSignificand 0 (ofInt n).whole = (n.natAbs, []) := by
    have hle : Nat.ofDigitChars 10 (Nat.toDigits 10 n.natAbs) 0 ≤ maxSignificand := by
      rw [hdigits, maxSignificand]
      omega
    have := takeDigits_eq hle
    rwa [hdigits] at this
  have hfraction : (ofInt n).fraction = none := rfl
  have hexponent : (ofInt n).exponent = none := rfl
  unfold toWhole?
  rw [hfraction, hexponent, htake]
  have hsign : ((ofInt n).negative && n.natAbs == 0) = false := by
    simp [ofInt]
    omega
  have hint : (if (ofInt n).negative then -(n.natAbs : Int) else n.natAbs) = n := by
    simp only [ofInt, decide_eq_true_eq]
    split <;> omega
  simp only [hsign, hint, Bool.false_eq_true, if_false, dif_pos bounds]

/-! ### Reading what was written -/

/-- What a literal stands for does not depend on the text behind it; only the place of a fault
does. -/
theorem toOption_value (l : NumberLiteral) (s t : List Char) :
    (l.value s).toOption = (l.value t).toOption := by
  have hfloat : (l.toFloat s).toOption = (l.toFloat t).toOption := by
    unfold toFloat
    rcases l.exponent with - | ⟨down, ds⟩
    · dsimp only
      split <;> rfl
    · dsimp only
      split
      · split <;> rfl
      · split <;> rfl
  unfold value
  cases l.toWhole? with
  | some n => rfl
  | none =>
    cases hs : l.toFloat s <;> cases ht : l.toFloat t <;> rw [hs, ht] at hfloat <;>
      simp_all [Except.map, Except.toOption]

/-- The text of a proper literal is read as what the literal stands for. -/
theorem read_text {l : NumberLiteral} (h : l.Proper) {s : List Char} (hs : Delimits s) :
    (read.read (l.text ++ s)).toOption = (l.value []).toOption.map fun n => (n, s) := by
  rw [toOption_value l [] s]
  simp only [read, scan_text h hs]
  cases l.value s <;> rfl

end Json.NumberLiteral

namespace Json.Number

/-- Every number is written as the text of a proper literal. -/
theorem write_eq_text (n : Number) : ∃ l : NumberLiteral, n.write = l.text ∧ l.Proper := by
  cases n with
  | whole n bounds =>
    exact ⟨.ofInt n, NumberLiteral.writeInt_eq_text n, NumberLiteral.proper_ofInt n⟩
  | float x =>
    obtain ⟨l, heq, hp⟩ :=
      NumberLiteral.writeFloat_eq_text floatLayout (by decide) (by decide) x
    exact ⟨l, heq, hp⟩

/-- What a number is read back as from the text it is written as, if it is read at all. -/
def reread (n : Number) : Option Number :=
  (NumberLiteral.read.read n.write).toOption.map Prod.fst

/-- A number that is read back as itself. -/
def IsStable (n : Number) : Prop := n.reread = some n

/-- A written number is taken off the front of a text, whatever follows that cannot go on it. -/
theorem read_write (n : Number) {s : List Char} (hs : Delimits s) :
    (NumberLiteral.read.read (n.write ++ s)).toOption = n.reread.map fun m => (m, s) := by
  obtain ⟨l, heq, hp⟩ := n.write_eq_text
  have hnil := NumberLiteral.read_text hp delimits_nil
  rw [List.append_nil] at hnil
  rw [reread, heq, hnil, NumberLiteral.read_text hp hs, Option.map_map, Option.map_map]
  rfl

/-- A whole number is read back as itself. -/
theorem isStable_whole {n : Int} (bounds : -9223372036854775808 ≤ n ∧ n < 18446744073709551616) :
    IsStable (.whole n bounds) := by
  have hread := NumberLiteral.read_text (NumberLiteral.proper_ofInt n) delimits_nil
  rw [List.append_nil, ← NumberLiteral.writeInt_eq_text, NumberLiteral.value,
    NumberLiteral.toWhole?_ofInt bounds] at hread
  rw [IsStable, reread]
  show (NumberLiteral.read.read (writeInt n)).toOption.map Prod.fst = _
  rw [hread]
  rfl

theorem isStable_of_isWhole {n : Number} (h : n.isWhole = true) : n.IsStable := by
  cases n with
  | whole n bounds => exact isStable_whole bounds
  | float x => cases h

/-- The text of a number starts with a minus sign or a digit. -/
theorem exists_cons_write (n : Number) :
    ∃ c cs, n.write = c :: cs ∧ (c = '-' ∨ c.isDigit = true) := by
  obtain ⟨⟨negative, w, f, e⟩, heq, hp⟩ := n.write_eq_text
  obtain ⟨hne, hall⟩ := hp.digits
  obtain ⟨d, ds, rfl⟩ := List.exists_cons_of_ne_nil hne
  rw [heq]
  cases negative with
  | true => exact ⟨'-', _, rfl, Or.inl rfl⟩
  | false =>
    rw [List.all_cons, Bool.and_eq_true] at hall
    exact ⟨d, _, rfl, Or.inr hall.1⟩

end Json.Number

end BrokerNode
