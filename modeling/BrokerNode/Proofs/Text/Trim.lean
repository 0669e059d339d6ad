/-
BrokerNode/Proofs/Text/Trim.lean

Texts without the blanks around them, and the case of letters.

Trimming takes off what padding puts on (`trim_of_isPadded`) and leaves nothing to take off
(`trim_trim`).  A letter is no blank in either case, so a text may be trimmed before or after it is put
in lower case (`map_toLower_trim`), and texts that differ only in the case of letters are the same in
lower case (`map_toLower_of_isRecased`).  Only the letters of ASCII have a case here.
-/
import BrokerNode.Text.Blank
import Mathlib.Data.List.DropRight
import Mathlib.Tactic.ByContra
import Mathlib.Tactic.SplitIfs

namespace BrokerNode.Text

/-! ### Trimming -/

/-- A text has nothing left when the blanks around it are taken off exactly when it is blank. -/
theorem trim_eq_nil_iff {s : List Char} : trim s = [] ↔ ∀ c ∈ s, isBlank c = true := by
  rw [trim, trimEnd, List.reverse_eq_nil_iff, List.dropWhile_eq_nil_iff]
  simp only [List.mem_reverse, trimStart]
  constructor
  · intro h
    by_contra hne
    have hdrop : s.dropWhile isBlank ≠ [] := by
      rw [ne_eq, List.dropWhile_eq_nil_iff]
      exact hne
    -- the first character that is no blank is still there
    have hhead := List.head_dropWhile_not isBlank hdrop
    rw [h _ (List.head_mem hdrop)] at hhead
    cases hhead
  · intro h c hc
    exact h c ((List.dropWhile_sublist _).mem hc)

/-- A text without blanks has none around it. -/
theorem trim_eq_self {s : List Char} (h : ∀ c ∈ s, isBlank c = false) : trim s = s := by
  have hdrop : ∀ t : List Char, (∀ c ∈ t, isBlank c = false) → t.dropWhile isBlank = t := by
    intro t ht
    cases t with
    | nil => rfl
    | cons c t => exact List.dropWhile_cons_of_neg (by simp [ht c (by simp)])
  rw [trim, trimEnd, trimStart, hdrop s h, hdrop s.reverse (by simpa using h), List.reverse_reverse]

/-- A trimmed text has no blanks around it. -/
theorem trim_trim (s : List Char) : trim (trim s) = trim s := by
  have hstart : trimStart (trim s) = trim s := by
    have hprefix : trim s <+: trimStart s := List.rdropWhile_prefix isBlank (trimStart s)
    cases htrim : trim s with
    | nil => rfl
    | cons c t =>
      -- the first character is the one that trimming at the start stopped at
      obtain ⟨r, hr⟩ := hprefix
      rw [htrim] at hr
      have hhead := List.head?_dropWhile_not isBlank s
      rw [← trimStart, ← hr] at hhead
      exact List.dropWhile_cons_of_neg (by simpa using hhead)
  rw [trim, hstart]
  exact List.rdropWhile_idempotent isBlank (trimStart s)

/-- What is no blank is not taken off. -/
theorem mem_trim {c : Char} {s : List Char} (hc : c ∈ s) (hvisible : isBlank c = false) :
    c ∈ trim s := by
  have hdrop : ∀ t : List Char, c ∈ t → c ∈ t.dropWhile isBlank := by
    intro t ht
    rw [← List.takeWhile_append_dropWhile (p := isBlank) (l := t), List.mem_append] at ht
    refine ht.resolve_left fun htaken => ?_
    rw [List.mem_takeWhile_imp htaken] at hvisible
    cases hvisible
  rw [trim, trimEnd, List.mem_reverse]
  exact hdrop _ (List.mem_reverse.mpr (hdrop s hc))

/-! ### Padding -/

/-- A text with blanks put around another. -/
def IsPadded (s t : List Char) : Prop :=
  ∃ before behind, before.all isBlank = true ∧ behind.all isBlank = true ∧
    t = before ++ (s ++ behind)

theorem trim_append_blanks {behind : List Char} (h : behind.all isBlank = true) (s : List Char) :
    trim (s ++ behind) = trim s := by
  by_cases hs : ∀ c ∈ s, isBlank c = true
  · have hall : ∀ c ∈ s ++ behind, isBlank c = true := by
      intro c hc
      exact (List.mem_append.mp hc).elim (hs c) (List.all_eq_true.mp h c)
    rw [trim_eq_nil_iff.mpr hs, trim_eq_nil_iff.mpr hall]
  · have hstart : trimStart (s ++ behind) = trimStart s ++ behind := by
      have hne : ¬(s.dropWhile isBlank).isEmpty = true := by
        rw [List.isEmpty_iff, List.dropWhile_eq_nil_iff]
        exact hs
      rw [trimStart, List.dropWhile_append, if_neg hne]
      rfl
    rw [trim, hstart, trimEnd_append_of_all h, trim]

/-- Blanks around a text are taken off with those that were there before. -/
theorem trim_of_isPadded {s t : List Char} (h : IsPadded s t) : trim t = trim s := by
  obtain ⟨before, behind, hbefore, hbehind, rfl⟩ := h
  rw [trim, trimStart_append_of_all hbefore, ← trim, trim_append_blanks hbehind]

/-! ### The case of letters -/

/-- The visible characters of ASCII are no blanks. -/
theorem isBlank_of_visible {c : Char} (hlow : 33 ≤ c.toNat) (hhigh : c.toNat ≤ 126) :
    isBlank c = false := by
  simp only [isBlank, Bool.or_eq_false_iff, Bool.and_eq_false_iff, beq_eq_false_iff_ne,
    decide_eq_false_iff_not]
  omega

theorem toNat_toLower (c : Char) :
    c.toLower.toNat = if 65 ≤ c.toNat ∧ c.toNat ≤ 90 then c.toNat + 32 else c.toNat := by
  have hrange : (c.val ≥ 'A'.val ∧ c.val ≤ 'Z'.val) ↔ 65 ≤ c.toNat ∧ c.toNat ≤ 90 := by
    rw [ge_iff_le, UInt32.le_iff_toNat_le, UInt32.le_iff_toNat_le]
    rfl
  delta Char.toLower
  split
  · next h =>
    have hletter := hrange.mp h
    have hoffset : ('a'.val - 'A'.val).toNat = 32 := rfl
    have hval : c.val.toNat = c.toNat := rfl
    rw [if_pos hletter]
    show (c.val + ('a'.val - 'A'.val)).toNat = c.toNat + 32
    rw [UInt32.toNat_add, hoffset, hval]
    omega
  · next h => rw [if_neg fun hletter => h (hrange.mpr hletter)]

theorem toNat_toUpper (c : Char) :
    c.toUpper.toNat = if 97 ≤ c.toNat ∧ c.toNat ≤ 122 then c.toNat - 32 else c.toNat := by
  have hrange : ('a'.val ≤ c.val ∧ c.val ≤ 'z'.val) ↔ 97 ≤ c.toNat ∧ c.toNat ≤ 122 := by
    rw [UInt32.le_iff_toNat_le, UInt32.le_iff_toNat_le]
    rfl
  delta Char.toUpper
  split
  · next h =>
    have hletter := hrange.mp h
    -- the difference of the two cases is negative, and so is taken modulo 2^32
    have hoffset : ('A'.val - 'a'.val).toNat = 2 ^ 32 - 32 := rfl
    have hval : c.val.toNat = c.toNat := rfl
    rw [if_pos hletter]
    show (c.val + ('A'.val - 'a'.val)).toNat = c.toNat - 32
    rw [UInt32.toNat_add, hoffset, hval]
    omega
  · next h => rw [if_neg fun hletter => h (hrange.mpr hletter)]

theorem toLower_toUpper (c : Char) : c.toUpper.toLower = c.toLower := by
  apply Char.toNat_inj.mp
  rw [toNat_toLower, toNat_toLower, toNat_toUpper]
  split_ifs <;> omega

theorem toLower_toLower (c : Char) : c.toLower.toLower = c.toLower := by
  apply Char.toNat_inj.mp
  rw [toNat_toLower, toNat_toLower]
  split_ifs <;> omega

theorem isBlank_toLower (c : Char) : isBlank c.toLower = isBlank c := by
  have hlower := toNat_toLower c
  split_ifs at hlower with hletter
  · rw [isBlank_of_visible (by omega) (by omega), isBlank_of_visible (by omega) (by omega)]
  · rw [Char.toNat_inj.mp hlower]

/-- A text may be trimmed before or after it is put in lower case. -/
theorem map_toLower_trim (s : List Char) : (trim s).map Char.toLower = trim (s.map Char.toLower) := by
  have hblank : isBlank ∘ Char.toLower = isBlank := funext isBlank_toLower
  have hstart : ∀ t : List Char, (trimStart t).map Char.toLower = trimStart (t.map Char.toLower) := by
    intro t
    rw [trimStart, trimStart, List.dropWhile_map, hblank]
  have hend : ∀ t : List Char, (trimEnd t).map Char.toLower = trimEnd (t.map Char.toLower) := by
    intro t
    have hreverse := hstart t.reverse
    rw [List.map_reverse] at hreverse
    show ((trimStart t.reverse).reverse).map Char.toLower = _
    rw [List.map_reverse, hreverse]
    rfl
  rw [trim, trim, hend, hstart]

/-- A text that differs from another in the case of some letters. -/
def IsRecased (s t : List Char) : Prop :=
  List.Forall₂ (fun c d => d = c ∨ d = c.toUpper ∨ d = c.toLower) s t

theorem map_toLower_of_isRecased {s t : List Char} (h : IsRecased s t) :
    t.map Char.toLower = s.map Char.toLower := by
  induction h with
  | nil => rfl
  | cons hcase _ ih =>
    rw [List.map_cons, List.map_cons, ih]
    rcases hcase with rfl | rfl | rfl
    · rfl
    · rw [toLower_toUpper]
    · rw [toLower_toLower]

end BrokerNode.Text
