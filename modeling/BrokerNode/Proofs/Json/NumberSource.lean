/-
BrokerNode/Proofs/Json/NumberSource.lean

Numbers and the texts that stand for them.

A text stands for a number when it is read as the number, or when the number is written so (`IsTextOf`).
What a literal was scanned from can be told from its parts (`source_of_scan`): either the text is made of
digits and nothing else, or there is a sign, a point or the letter of an exponent in it.  In the first case
the number is what the digits make, as long as that fits into 64 bits; in the second it is no number that
digits could make at all (`IsTextOf.digits_or_mark`).
-/
import BrokerNode.Proofs.Json.NumberText

namespace BrokerNode

namespace Json.NumberLiteral

/-! ### Scanned texts -/

section Scanned

variable {atEnd : Cause} {s r : List Char}

theorem scanWhole_source {w : List Char} (h : scanWhole atEnd s = .ok (w, r)) :
    s = w ++ r ∧ IsDigits w := by
  unfold scanWhole at h
  split at h
  · cases h
  · -- a leading zero stands alone
    split at h
    · cases h
      exact ⟨rfl, isDigits_zero⟩
    · split at h
      · cases h
      · cases h
        exact ⟨rfl, isDigits_zero⟩
  · next c t _ =>
    split at h
    · next hc =>
      cases h
      refine ⟨?_, by simp, ?_⟩
      · simp [spanDigits, List.takeWhile_append_dropWhile]
      · rw [List.all_cons, hc, Bool.true_and]
        exact List.all_takeWhile
    · cases h

theorem scanFraction_source {f : Option (List Char)} (h : scanFraction atEnd s = .ok (f, r)) :
    (f = none ∧ s = r) ∨ (f ≠ none ∧ ∃ t, s = '.' :: (t ++ r)) := by
  unfold scanFraction at h
  split at h
  · split at h
    · cases h
    · next d t =>
      split at h
      · cases h
        refine Or.inr ⟨by simp, d :: (spanDigits t).1, ?_⟩
        simp [spanDigits, List.takeWhile_append_dropWhile]
      · cases h
  · cases h
    exact Or.inl ⟨rfl, rfl⟩

theorem scanExponent_source {e : Option (Bool × List Char)}
    (h : scanExponent atEnd s = .ok (e, r)) :
    (e = none ∧ s = r) ∨ (e ≠ none ∧ ('e' ∈ s ∨ 'E' ∈ s)) := by
  unfold scanExponent at h
  split at h
  · cases h
    exact Or.inl ⟨rfl, rfl⟩
  · next c t =>
    split at h
    · next hc =>
      split at h
      · cases h
      · split at h
        · cases h
          refine Or.inr ⟨by simp, ?_⟩
          rcases hc with rfl | rfl
          · exact Or.inl (by simp)
          · exact Or.inr (by simp)
        · cases h
    · cases h
      exact Or.inl ⟨rfl, rfl⟩

theorem sign_source (s : List Char) :
    ((sign s).1 = false ∧ (sign s).2 = s) ∨ ((sign s).1 = true ∧ s = '-' :: (sign s).2) := by
  unfold sign
  split
  · exact Or.inr ⟨rfl, rfl⟩
  · exact Or.inl ⟨rfl, rfl⟩

/-- A character that a number may have besides digits, apart from the plus sign of its exponent. -/
def IsMark (c : Char) : Prop := c = '-' ∨ c = '.' ∨ c = 'e' ∨ c = 'E'

/-- A literal of digits only. -/
structure IsPlain (l : NumberLiteral) : Prop where
  negative : l.negative = false
  fraction : l.fraction = none
  exponent : l.exponent = none

/-- What the parts of a literal were scanned from. -/
theorem parts_of_scan {l : NumberLiteral} (h : scan atEnd s = .ok (l, r)) :
    (sign s).1 = l.negative ∧ ∃ s₁ s₂, scanWhole atEnd (sign s).2 = .ok (l.whole, s₁) ∧
      scanFraction atEnd s₁ = .ok (l.fraction, s₂) ∧ scanExponent atEnd s₂ = .ok (l.exponent, r) := by
  simp only [scan, bind, Except.bind] at h
  split at h
  · cases h
  · next p hw =>
    split at h
    · cases h
    · next q hf =>
      split at h
      · cases h
      · next t he =>
        cases h
        exact ⟨rfl, p.2, q.2, hw, hf, he⟩

/-- A text that is scanned to its end is made of digits only, and then they are the literal, or has a
sign, a point or the letter of an exponent in it. -/
theorem source_of_scan {l : NumberLiteral} (h : scan atEnd s = .ok (l, [])) :
    (l.IsPlain ∧ l.whole = s ∧ IsDigits s) ∨
      (¬l.IsPlain ∧ ∃ c ∈ s, IsMark c) := by
  obtain ⟨hsign, s₁, s₂, hw, hf, he⟩ := parts_of_scan h
  obtain ⟨hwhole, hdigits⟩ := scanWhole_source hw
  have hbehind : ∀ c ∈ s₁, c ∈ s := by
    intro c hc
    have hmem : c ∈ (sign s).2 := by simp [hwhole, hc]
    rcases sign_source s with ⟨-, hs⟩ | ⟨-, hs⟩
    · rwa [hs] at hmem
    · rw [hs]
      exact List.mem_cons_of_mem _ hmem
  rcases scanFraction_source hf with ⟨hfraction, rfl⟩ | ⟨hfraction, t, rfl⟩
  · rcases scanExponent_source he with ⟨hexponent, rfl⟩ | ⟨hexponent, hletter⟩
    · rcases sign_source s with ⟨hnone, hs⟩ | ⟨hminus, hs⟩
      · -- neither sign nor fraction nor exponent
        rw [hs, List.append_nil] at hwhole
        refine Or.inl ⟨⟨hsign.symm.trans hnone, hfraction, hexponent⟩, hwhole.symm, ?_⟩
        rw [hwhole]
        exact hdigits
      · refine Or.inr ⟨fun hplain => ?_, '-', by rw [hs]; simp, Or.inl rfl⟩
        rw [hminus, hplain.negative] at hsign
        cases hsign
    · refine Or.inr ⟨fun hplain => hexponent hplain.exponent, ?_⟩
      rcases hletter with hmem | hmem
      · exact ⟨'e', hbehind _ hmem, by simp [IsMark]⟩
      · exact ⟨'E', hbehind _ hmem, by simp [IsMark]⟩
  · exact Or.inr ⟨fun hplain => hfraction hplain.fraction, '.', hbehind _ (by simp), by simp [IsMark]⟩

end Scanned

/-! ### Values -/

/-- Digits are all taken exactly when the number that they make is within the limit. -/
theorem takeDigits_eq_iff {limit n m : Nat} {ds : List Char} (hn : n ≤ limit) :
    takeDigits limit n ds = (m, []) ↔ Nat.ofDigitChars 10 ds n = m ∧ m ≤ limit := by
  constructor
  · intro h
    induction ds generalizing n with
    | nil =>
      cases h
      exact ⟨rfl, hn⟩
    | cons d ds ih =>
      rw [takeDigits] at h
      split at h
      · next hle =>
        rw [Nat.ofDigitChars_cons]
        exact ih hle h
      · cases h
  · rintro ⟨rfl, hle⟩
    exact takeDigits_eq hle

/-- What a whole number was made of. -/
theorem toWhole?_eq_some {l : NumberLiteral} {i : Int} {bounds : _}
    (h : l.toWhole? = some (.whole i bounds)) :
    l.fraction = none ∧ l.exponent = none ∧ ∃ m : Nat,
      takeDigits maxSignificand 0 l.whole = (m, []) ∧ (l.negative = true → 0 < m) ∧
      i = if l.negative then -(m : Int) else m := by
  unfold toWhole? at h
  split at h
  · next m hf he htake =>
    rw [Option.ite_none_left_eq_some, Option.dite_none_right_eq_some] at h
    obtain ⟨hzero, _, hn⟩ := h
    refine ⟨hf, he, m, htake, ?_, (Number.whole.inj (Option.some.inj hn)).symm⟩
    intro hneg
    simp only [hneg, Bool.true_and, beq_iff_eq] at hzero
    exact Nat.pos_of_ne_zero hzero
  · cases h

/-- What stands for a double is no whole number. -/
theorem value_eq_ok {l : NumberLiteral} {n : Number} (h : l.value s = .ok n) :
    l.toWhole? = some n ∨ (l.toWhole? = none ∧ ∃ x, n = .float x) := by
  unfold value at h
  cases hwhole : l.toWhole? with
  | some m =>
    rw [hwhole] at h
    cases h
    exact Or.inl rfl
  | none =>
    rw [hwhole] at h
    cases hfloat : l.toFloat s with
    | ok x =>
      rw [hfloat] at h
      cases h
      exact Or.inr ⟨rfl, x, rfl⟩
    | error e =>
      rw [hfloat] at h
      cases h

/-- A whole number that digits make is not negative, and fits into 64 bits. -/
theorem toWhole?_eq_natCast_iff {l : NumberLiteral} {m : Nat} :
    (∃ bounds, l.toWhole? = some (.whole m bounds)) ↔
      l.IsPlain ∧ Nat.ofDigitChars 10 l.whole 0 = m ∧ m ≤ maxSignificand := by
  constructor
  · rintro ⟨bounds, h⟩
    obtain ⟨hf, he, k, htake, hpos, hm⟩ := toWhole?_eq_some h
    obtain ⟨hvalue, hle⟩ := (takeDigits_eq_iff (Nat.zero_le _)).mp htake
    split at hm
    · next hneg =>
      have := hpos hneg
      omega
    · next hsign =>
      obtain rfl := Int.ofNat.inj hm
      exact ⟨⟨Bool.eq_false_iff.mpr hsign, hf, he⟩, hvalue, hle⟩
  · rintro ⟨⟨hsign, hf, he⟩, hvalue, hle⟩
    have htake := (takeDigits_eq_iff (Nat.zero_le _)).mpr ⟨hvalue, hle⟩
    have bounds : -9223372036854775808 ≤ (m : Int) ∧ (m : Int) < 18446744073709551616 := by
      rw [maxSignificand] at hle
      omega
    refine ⟨bounds, ?_⟩
    unfold toWhole?
    simp only [hf, he, htake, hsign, Bool.false_and, Bool.false_eq_true, if_false, dif_pos bounds]

/-- A double is written with a point or with an exponent. -/
theorem exists_mark_writeFloat (layout : Decimal.Layout) (x : Float) :
    ∃ c ∈ layout.writeFloat x, IsMark c := by
  have hinPlace : ∀ ds x, '.' ∈ Decimal.Layout.inPlace ds x := by
    intro ds x
    unfold Decimal.Layout.inPlace
    split <;> simp
  have hwithExponent : ∀ ds x, 'e' ∈ Decimal.Layout.withExponent ds x := by
    intro ds x
    simp [Decimal.Layout.withExponent]
  have hwrite : ∀ d, ∃ c ∈ layout.write d, IsMark c := by
    intro d
    unfold Decimal.Layout.write
    dsimp only
    split
    · exact ⟨'.', hinPlace _ _, by simp [IsMark]⟩
    · exact ⟨'e', hwithExponent _ _, by simp [IsMark]⟩
  have hmagnitude : ∃ c ∈ (if (Decimal.Binary.ofBits x.toBits).significand = 0 then ['0', '.', '0']
      else layout.write (Decimal.Binary.ofBits x.toBits).shortest), IsMark c := by
    split
    · exact ⟨'.', by simp, by simp [IsMark]⟩
    · exact hwrite _
  obtain ⟨c, hc, hmark⟩ := hmagnitude
  exact ⟨c, List.mem_append_right _ hc, hmark⟩

end Json.NumberLiteral

namespace Json.Number

open NumberLiteral

/-! ### Texts of numbers -/

/-- A text stands for a number: it is read as the number, or the number is written so. -/
def IsTextOf (n : Number) (s : List Char) : Prop :=
  NumberLiteral.read.read s = .ok (n, []) ∨ s = n.write

variable {n : Number} {s : List Char}

/-- A whole number is read from what it is written as. -/
theorem read_write_whole {n : Int} (bounds : -9223372036854775808 ≤ n ∧ n < 18446744073709551616) :
    NumberLiteral.read.read (Number.whole n bounds).write = .ok (.whole n bounds, []) := by
  have hread := read_write (.whole n bounds) delimits_nil
  rw [List.append_nil, isStable_whole bounds] at hread
  cases h : NumberLiteral.read.read (Number.whole n bounds).write with
  | ok p =>
    rw [h] at hread
    exact congrArg _ (Option.some.inj hread)
  | error e =>
    rw [h] at hread
    cases hread

/-- A text that is read as a number is made of digits, and then the number is what they make if that
fits into 64 bits; or there is a mark in it, and then the number is not one that digits make. -/
theorem digits_or_mark_of_read (h : NumberLiteral.read.read s = .ok (n, [])) :
    (IsDigits s ∧ ∀ m : Nat, (∃ bounds, n = .whole m bounds) ↔
      Nat.ofDigitChars 10 s 0 = m ∧ m ≤ maxSignificand) ∨
    ((∃ c ∈ s, IsMark c) ∧ ∀ (m : Nat) (bounds : _), n ≠ .whole m bounds) := by
  obtain ⟨l, hscan, hvalue⟩ : ∃ l, scan .endInValue s = .ok (l, []) ∧ l.value [] = .ok n := by
    simp only [NumberLiteral.read] at h
    split at h
    · next l r hl =>
      split at h
      · next hn =>
        cases h
        exact ⟨l, hl, hn⟩
      · cases h
    · cases h
  have hwhole : ∀ m : Nat, (∃ bounds, n = .whole m bounds) ↔
      l.IsPlain ∧ Nat.ofDigitChars 10 l.whole 0 = m ∧ m ≤ maxSignificand := by
    intro m
    rw [← toWhole?_eq_natCast_iff]
    rcases value_eq_ok hvalue with hsome | ⟨hnone, x, rfl⟩
    · rw [hsome]
      simp
    · rw [hnone]
      simp
  rcases source_of_scan hscan with ⟨hplain, rfl, hdigits⟩ | ⟨hplain, hmark⟩
  · refine Or.inl ⟨hdigits, fun m => (hwhole m).trans ?_⟩
    exact ⟨fun hm => hm.2, fun hm => ⟨hplain, hm⟩⟩
  · exact Or.inr ⟨hmark, fun m bounds hn => hplain ((hwhole m).mp ⟨bounds, hn⟩).1⟩

/-- The same of any text that stands for a number. -/
theorem IsTextOf.digits_or_mark (h : n.IsTextOf s) :
    (IsDigits s ∧ ∀ m : Nat, (∃ bounds, n = .whole m bounds) ↔
      Nat.ofDigitChars 10 s 0 = m ∧ m ≤ maxSignificand) ∨
    ((∃ c ∈ s, IsMark c) ∧ ∀ (m : Nat) (bounds : _), n ≠ .whole m bounds) := by
  rcases h with hread | rfl
  · exact digits_or_mark_of_read hread
  · cases n with
    | whole n bounds => exact digits_or_mark_of_read (read_write_whole bounds)
    | float x =>
      -- what a double is written as may be read as another one, but never as a whole number
      exact Or.inr ⟨exists_mark_writeFloat floatLayout x, fun m bounds => Number.noConfusion⟩

end Json.Number

end BrokerNode
