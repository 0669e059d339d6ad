/-
BrokerNode/Proofs/Endpoint/Numbers.lean

Ports and databases: which values are read as a number, and which are refused.

A field is unset, or it gives a number of the range that is asked for, or it is a misfit (`IsMisfit`); the
three exclude each other and leave nothing out (`isMisfit_iff`).  Reading a port or a database follows
this division exactly, and what is read is the number that is given and no other, however many digits it
is written with (`ReadsPort`, `ReadsDb`).  As a misfit in one spelling is one in any other, it does not
matter whether a number stands in a field itself or as a text (`numbers_decide`).
-/
import BrokerNode.Proofs.Endpoint.Spelling
import BrokerNode.Proofs.Json.NumberSource

namespace BrokerNode.Endpoint

/-! ### Misfits -/

/-- A value that is there, but gives no number of a range. -/
inductive IsMisfit (lo hi : Nat) : Json → Prop where
  | null : IsMisfit lo hi .null
  | bool (b : Bool) : IsMisfit lo hi (.bool b)
  | list (elements : List Json) : IsMisfit lo hi (.list elements)
  | object (members : List (String × Json)) : IsMisfit lo hi (.object members)
  | float (x : Float) : IsMisfit lo hi (.number (.float x))
  | whole {n : Int} (bounds : -9223372036854775808 ≤ n ∧ n < 18446744073709551616)
    (h : n < lo ∨ hi < n) : IsMisfit lo hi (.number (.whole n bounds))
  | numeral {s : String} {n : Nat} (hn : IsNumeralOf (Text.trim s.toList) n) (h : n < lo ∨ hi < n) :
    IsMisfit lo hi (.string s)
  | text {s : String} (hset : ∃ c ∈ s.toList, Text.isBlank c = false)
    (h : ∀ n, ¬IsNumeralOf (Text.trim s.toList) n) : IsMisfit lo hi (.string s)

section IsMisfit

variable {lo hi : Nat} {x : Json}

theorem IsMisfit.not_unset (h : IsMisfit lo hi x) : ¬Unset (some x) := by
  rintro (hnone | ⟨s, hs, hblank⟩)
  · cases hnone
  · obtain rfl := Option.some.inj hs
    cases h with
    | numeral hn _ => exact (GivesNumber.not_unset (Or.inr ⟨s, rfl, hn⟩)) (Or.inr ⟨s, rfl, hblank⟩)
    | text hset _ =>
      obtain ⟨c, hc, hvisible⟩ := hset
      rw [hblank c hc] at hvisible
      cases hvisible

/-- The number that a misfit gives, if it gives one, is out of the range. -/
theorem IsMisfit.not_within (h : IsMisfit lo hi x) {n : Nat} (hn : GivesNumber (some x) n) :
    n < lo ∨ hi < n := by
  rcases hn with ⟨bounds, hx⟩ | ⟨s, hx, hnumeral⟩
  · obtain rfl := Option.some.inj hx
    cases h with
    | whole _ hrange => omega
  · obtain rfl := Option.some.inj hx
    cases h with
    | numeral hm hrange =>
      obtain rfl := GivesNumber.unique (Or.inr ⟨s, rfl, hm⟩) (Or.inr ⟨s, rfl, hnumeral⟩)
      exact hrange
    | text _ hnone => exact absurd hnumeral (hnone n)

/-- A value that is set, and gives no number of the range, is a misfit. -/
theorem isMisfit_of_not (hset : ¬Unset (some x))
    (hnone : ∀ n, GivesNumber (some x) n → n < lo ∨ hi < n) : IsMisfit lo hi x := by
  cases x with
  | null => exact .null
  | bool b => exact .bool b
  | list elements => exact .list elements
  | object members => exact .object members
  | number n =>
    cases n with
    | float x => exact .float x
    | whole n bounds =>
      refine .whole bounds ?_
      rcases Int.lt_or_le n 0 with hneg | hpos
      · omega
      · obtain ⟨m, rfl⟩ := Int.eq_ofNat_of_zero_le hpos
        have := hnone m (Or.inl ⟨bounds, rfl⟩)
        omega
  | string s =>
    by_cases hnumeral : ∃ n, IsNumeralOf (Text.trim s.toList) n
    · obtain ⟨n, hn⟩ := hnumeral
      exact .numeral hn (hnone n (Or.inr ⟨s, rfl, hn⟩))
    · refine .text ?_ fun n hn => hnumeral ⟨n, hn⟩
      by_contra hblank
      refine hset (Or.inr ⟨s, rfl, fun c hc => ?_⟩)
      by_contra hvisible
      exact hblank ⟨c, hc, by simpa using hvisible⟩

/-- A field is unset, gives a number of the range, or holds a misfit. -/
theorem isMisfit_iff {v : Option Json} : (∃ x, v = some x ∧ IsMisfit lo hi x) ↔
    ¬(Unset v ∨ ∃ n, GivesNumber v n ∧ lo ≤ n ∧ n ≤ hi) := by
  rw [not_or]
  constructor
  · rintro ⟨x, rfl, h⟩
    refine ⟨h.not_unset, ?_⟩
    rintro ⟨n, hn, hlo, hhi⟩
    have := h.not_within hn
    omega
  · rintro ⟨hset, hnone⟩
    cases v with
    | none => exact absurd (Or.inl rfl) hset
    | some x =>
      refine ⟨x, rfl, isMisfit_of_not hset fun n hn => ?_⟩
      by_contra hrange
      exact hnone ⟨n, hn, by omega, by omega⟩

end IsMisfit

/-! ### What is read -/

/-- What comes of reading a number of a range from a field.  The result `unset` stands for a field that is
unset, and `value` tells which number any other result stands for. -/
inductive ReadsNumber {α : Type} (lo hi : Nat) (unset : α) (value : α → Option Nat)
    (refusal : String → Refusal) (v : Option Json) : Except Refusal α → Prop where
  | unset (h : Unset v) : ReadsNumber lo hi unset value refusal v (.ok unset)
  | given {a : α} {n : Nat} (hn : GivesNumber v n) (hlo : lo ≤ n) (hhi : n ≤ hi)
    (ha : value a = some n) : ReadsNumber lo hi unset value refusal v (.ok a)
  | misfit {x : Json} (hx : v = some x) (h : IsMisfit lo hi x) :
    ReadsNumber lo hi unset value refusal v (.error (refusal (fieldText v)))

/-- What comes of reading a port: there may be none, and zero is not one. -/
def ReadsPort : Option Json → Except Refusal (Option UInt16) → Prop :=
  ReadsNumber 1 65535 none (Option.map UInt16.toNat) .invalidPort

/-- What comes of reading a database of Redis: the first one is taken when it is unset. -/
def ReadsDb : Option Json → Except Refusal UInt32 → Prop :=
  ReadsNumber 0 4294967295 0 (fun db => some db.toNat) .invalidDb

section ReadsNumber

variable {α : Type} {lo hi : Nat} {unset : α} {value : α → Option Nat} {refusal : String → Refusal}
  {v : Option Json} {result : Except Refusal α}

/-- A result is the one that comes of reading a field if it is right in each of the three cases, and there
is a result for every number of the range. -/
theorem eq_iff_readsNumber (hunset : Unset v → result = .ok unset)
    (hgiven : ∀ a n, GivesNumber v n → lo ≤ n → n ≤ hi → value a = some n → result = .ok a)
    (hmisfit : ¬(Unset v ∨ ∃ n, GivesNumber v n ∧ lo ≤ n ∧ n ≤ hi) →
      result = .error (refusal (fieldText v)))
    (hvalue : ∀ n, n ≤ hi → ∃ a, value a = some n) (outcome : Except Refusal α) :
    result = outcome ↔ ReadsNumber lo hi unset value refusal v outcome := by
  constructor
  · rintro rfl
    by_cases hpasses : Unset v ∨ ∃ n, GivesNumber v n ∧ lo ≤ n ∧ n ≤ hi
    · rcases hpasses with h | ⟨n, hn, hlo, hhi⟩
      · rw [hunset h]
        exact .unset h
      · obtain ⟨a, ha⟩ := hvalue n hhi
        rw [hgiven a n hn hlo hhi ha]
        exact .given hn hlo hhi ha
    · obtain ⟨x, hx, h⟩ := isMisfit_iff.mpr hpasses
      rw [hmisfit hpasses]
      exact .misfit hx h
  · intro h
    cases h with
    | unset h => exact hunset h
    | given hn hlo hhi ha => exact hgiven _ _ hn hlo hhi ha
    | misfit hx h => exact hmisfit (isMisfit_iff.mp ⟨_, hx, h⟩)

end ReadsNumber

theorem portOf_eq_iff (v : Option Json) (outcome : Except Refusal (Option UInt16)) :
    portOf v = outcome ↔ ReadsPort v outcome := by
  refine eq_iff_readsNumber ?_ ?_ portOf_invalid ?_ outcome
  · intro h
    rw [portOf, if_pos (isUnset_iff.mpr h)]
  · intro port n hn hlo _ hport
    obtain ⟨port, rfl, rfl⟩ := Option.map_eq_some_iff.mp hport
    exact portOf_of_givesNumber hn hlo
  · intro n hle
    refine ⟨some n.toUInt16, congrArg some ?_⟩
    rw [Nat.toUInt16_eq, UInt16.toNat_ofNat']
    omega

theorem dbOf_eq_iff (v : Option Json) (outcome : Except Refusal UInt32) :
    dbOf v = outcome ↔ ReadsDb v outcome := by
  refine eq_iff_readsNumber ?_ ?_ ?_ ?_ outcome
  · intro h
    rw [dbOf, if_pos (isUnset_iff.mpr h)]
  · intro db n hn _ _ hdb
    obtain rfl := Option.some.inj hdb
    exact dbOf_of_givesNumber hn
  · intro hmisfit
    refine dbOf_invalid fun hpasses => hmisfit (hpasses.imp_right ?_)
    rintro ⟨n, hn, hlt⟩
    exact ⟨n, hn, Nat.zero_le n, Nat.le_of_lt_succ hlt⟩
  · intro n hle
    refine ⟨n.toUInt32, congrArg some ?_⟩
    rw [Nat.toUInt32_eq, UInt32.toNat_ofNat']
    omega

/-! ### Numbers as texts -/

section Texts

variable {n : Json.Number} {s : String} {m : Nat}

/-- Digits are a numeral of the number that they make. -/
theorem isNumeralOf_of_isDigits {ds : List Char} (h : Json.NumberLiteral.IsDigits ds) :
    IsNumeralOf ds (Nat.ofDigitChars 10 ds 0) :=
  ⟨ds, Or.inl rfl, h.1, List.all_eq_true.mp h.2, rfl⟩

/-- A mark is neither blank nor part of a numeral. -/
theorem isBlank_of_isMark {c : Char} (h : Json.NumberLiteral.IsMark c) : Text.isBlank c = false := by
  rcases h with rfl | rfl | rfl | rfl <;> decide

theorem not_isNumeralOf_of_isMark {c : Char} {ds : List Char} (hc : c ∈ ds)
    (h : Json.NumberLiteral.IsMark c) (m : Nat) : ¬IsNumeralOf ds m := by
  have hno : c.isDigit = false ∧ c ≠ '+' := by
    rcases h with rfl | rfl | rfl | rfl <;> decide
  have hdigit : ∀ es : List Char, c ∈ es → ¬∀ d ∈ es, d.isDigit = true := by
    intro es hmem hall
    rw [hall c hmem] at hno
    cases hno.1
  rintro ⟨es, rfl | rfl, -, hall, -⟩
  · exact hdigit _ hc hall
  · exact hdigit _ ((List.mem_cons.mp hc).resolve_left hno.2) hall

/-- A text that stands for a number is not blank. -/
theorem not_unset_text (h : n.IsTextOf s.toList) : ¬Unset (some (.string s)) := by
  rcases h.digits_or_mark with ⟨hdigits, -⟩ | ⟨⟨c, hc, hmark⟩, -⟩
  · exact (givesNumber_of_isNumeralOf (isNumeralOf_of_isDigits hdigits)).not_unset
  · rintro (hnone | ⟨t, ht, hblank⟩)
    · cases hnone
    · cases ht
      have hvisible := isBlank_of_isMark hmark
      rw [hblank c hc] at hvisible
      cases hvisible

/-- A text that stands for a number gives the same number of 64 bits, if it gives any. -/
theorem givesNumber_text_iff (h : n.IsTextOf s.toList) (hm : m ≤ Json.NumberLiteral.maxSignificand) :
    GivesNumber (some (.string s)) m ↔ GivesNumber (some (.number n)) m := by
  have hstring : GivesNumber (some (.string s)) m ↔ IsNumeralOf (Text.trim s.toList) m := by
    simp [GivesNumber]
  have hnumber : GivesNumber (some (.number n)) m ↔ ∃ bounds, n = .whole m bounds := by
    simp [GivesNumber]
  rw [hstring, hnumber]
  rcases h.digits_or_mark with ⟨hdigits, hwhole⟩ | ⟨⟨c, hc, hmark⟩, hwhole⟩
  · have hnumeral := isNumeralOf_of_isDigits hdigits
    rw [Text.trim_eq_self hnumeral.not_isBlank, hwhole m]
    constructor
    · intro hm'
      rw [isNumeralOf_iff] at hnumeral hm'
      exact ⟨hnumeral.2.symm.trans hm'.2, hm⟩
    · rintro ⟨rfl, -⟩
      exact hnumeral
  · -- the mark is still there when the blanks are taken off
    have hmem := Text.mem_trim hc (isBlank_of_isMark hmark)
    refine ⟨fun hm' => absurd hm' (not_isNumeralOf_of_isMark hmem hmark m), ?_⟩
    rintro ⟨bounds, hn⟩
    exact absurd hn (hwhole m bounds)

theorem isUnset_text (h : n.IsTextOf s.toList) :
    isUnset (some (.string s)) = isUnset (some (.number n)) := by
  have hset : isUnset (some (.string s)) = false := by
    rw [← Bool.not_eq_true, isUnset_iff]
    exact not_unset_text h
  rw [hset]
  rfl

theorem number?_text (h : n.IsTextOf s.toList) {bound : Nat}
    (hbound : bound ≤ Json.NumberLiteral.maxSignificand) :
    (some (Json.string s)).bind (number? bound) = (some (Json.number n)).bind (number? bound) := by
  ext m
  rw [number?_eq_some_iff, number?_eq_some_iff]
  refine and_congr_left fun hm => ?_
  exact givesNumber_text_iff h (Nat.le_trans hm hbound)

end Texts

/-- Ports and databases are read as the numbers that their fields give, and nothing else is read; a number
and a text that stands for it have the same outcome. -/
theorem numbers_decide (v : Option Json) :
    (∀ outcome, portOf v = outcome ↔ ReadsPort v outcome) ∧
    (∀ outcome, dbOf v = outcome ↔ ReadsDb v outcome) ∧
    ∀ (n : Json.Number) (s : String), v = some (.number n) → n.IsTextOf s.toList →
      Alike (portOf v) (portOf (some (.string s))) ∧ Alike (dbOf v) (dbOf (some (.string s))) := by
  refine ⟨portOf_eq_iff v, dbOf_eq_iff v, ?_⟩
  rintro n s rfl hs
  exact ⟨portOf_alike_of_eq (isUnset_text hs) (number?_text hs (by decide)),
    dbOf_alike_of_eq (isUnset_text hs) (number?_text hs (by decide))⟩

theorem numbers_decide_seventyThousand :
    portOf (some (.number (.ofUInt64 70000))) = .error (.invalidPort "70000") ∧
    Alike (.error (.invalidPort "70000")) (portOf (some (.string "70000"))) ∧
    Alike (.ok 70000) (dbOf (some (.string "70000"))) := by
  obtain ⟨hport, hdb, htext⟩ := numbers_decide (some (.number (.ofUInt64 70000)))
  have hrefused := (hport _).mpr (.misfit rfl (.whole _ (by decide)))
  have hread := (hdb (.ok 70000)).mpr (.given (Or.inl ⟨_, rfl⟩) (by decide) (by decide) rfl)
  have hwritten : "70000".toList = (Json.Number.ofUInt64 70000).write := by decide
  obtain ⟨hports, hdbs⟩ := htext _ "70000" rfl (Or.inr hwritten)
  rw [hrefused] at hports
  rw [hread] at hdbs
  exact ⟨hrefused, hports, hdbs⟩

end BrokerNode.Endpoint
