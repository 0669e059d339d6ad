/-
BrokerNode/Proofs/Json/Literal.lean

Number literals and their texts.

A literal that is `Proper` has a text of its own, and scanning takes exactly that literal off the front
of its text, provided that what follows cannot go on a number (`scan_text`).  So scanning is maximal:
where one literal ends is a matter of the next character alone.
-/
import BrokerNode.Json.NumberLiteral
import Mathlib.Data.List.Basic

namespace BrokerNode.Json

/-- A text that cannot go on a number: it is empty, or starts with neither a digit nor a point nor
the letter of an exponent. -/
def Delimits (s : List Char) : Prop :=
  ∀ c ∈ s.head?, c.isDigit = false ∧ c ≠ '.' ∧ c ≠ 'e' ∧ c ≠ 'E'

theorem delimits_nil : Delimits [] := by
  intro c hc
  cases hc

theorem delimits_comma (s : List Char) : Delimits (',' :: s) := by
  intro c hc
  cases hc
  decide

theorem delimits_bracket (s : List Char) : Delimits (']' :: s) := by
  intro c hc
  cases hc
  decide

theorem delimits_brace (s : List Char) : Delimits ('}' :: s) := by
  intro c hc
  cases hc
  decide

namespace NumberLiteral

/-! ### Literals and their texts -/

/-- The text of a fraction, if there is one. -/
def fractionText : Option (List Char) → List Char
  | none => []
  | some f => '.' :: f

/-- The text of an exponent, if there is one, always with its sign. -/
def exponentText : Option (Bool × List Char) → List Char
  | none => []
  | some (down, ds) => 'e' :: (if down then '-' else '+') :: ds

/-- The text of a literal. -/
def text (l : NumberLiteral) : List Char :=
  (if l.negative then ['-'] else []) ++
    (l.whole ++ (fractionText l.fraction ++ exponentText l.exponent))

/-- Digits, at least one. -/
def IsDigits (s : List Char) : Prop := s ≠ [] ∧ s.all Char.isDigit = true

/-- A literal whose text is a number: its whole part is a zero or starts with another digit, and its
fraction and exponent have digits. -/
structure Proper (l : NumberLiteral) : Prop where
  digits : IsDigits l.whole
  leading : l.whole = ['0'] ∨ l.whole.head? ≠ some '0'
  fraction : ∀ f ∈ l.fraction, IsDigits f
  exponent : ∀ e ∈ l.exponent, IsDigits e.2

/-! ### Scanning the text of a literal -/

theorem spanDigits_append {ds s : List Char} (hds : ds.all Char.isDigit = true)
    (hs : ∀ c ∈ s.head?, c.isDigit = false) : spanDigits (ds ++ s) = (ds, s) := by
  induction ds with
  | nil =>
    cases s with
    | nil => rfl
    | cons c s =>
      have hc : c.isDigit = false := hs c rfl
      simp [spanDigits, hc]
  | cons d ds ih =>
    rw [List.all_cons, Bool.and_eq_true] at hds
    have := ih hds.2
    simp only [spanDigits, Prod.mk.injEq] at this
    simp [spanDigits, hds.1, this.1, this.2]

/-- The whole part is taken off where no digit follows it. -/
theorem scanWhole_append (atEnd : Cause) {w s : List Char} (hw : IsDigits w)
    (hz : w = ['0'] ∨ w.head? ≠ some '0') (hs : ∀ c ∈ s.head?, c.isDigit = false) :
    scanWhole atEnd (w ++ s) = .ok (w, s) := by
  obtain ⟨hne, hall⟩ := hw
  rcases hz with rfl | hz
  · -- nothing may follow a leading zero
    cases s with
    | nil => rfl
    | cons c s =>
      have hc : c.isDigit = false := hs c rfl
      simp [scanWhole, hc]
  · cases w with
    | nil => exact absurd rfl hne
    | cons d ds =>
      rw [List.all_cons, Bool.and_eq_true] at hall
      have hd : d ≠ '0' := by simpa using hz
      show scanWhole atEnd (d :: (ds ++ s)) = _
      rw [scanWhole]
      · rw [hall.1, spanDigits_append hall.2 hs]
        rfl
      · exact hd

/-- The fraction is taken off where neither a digit nor a point follows it. -/
theorem scanFraction_append (atEnd : Cause) {f : Option (List Char)} {s : List Char}
    (hf : ∀ ds ∈ f, IsDigits ds) (hs : ∀ c ∈ s.head?, c.isDigit = false ∧ c ≠ '.') :
    scanFraction atEnd (fractionText f ++ s) = .ok (f, s) := by
  rcases f with - | ds
  · -- without a fraction what follows must not be taken for one
    show scanFraction atEnd s = _
    rw [scanFraction]
    intro t ht
    rw [ht] at hs
    exact (hs '.' rfl).2 rfl
  · obtain ⟨hne, hall⟩ := hf ds rfl
    cases ds with
    | nil => exact absurd rfl hne
    | cons d ds =>
      rw [List.all_cons, Bool.and_eq_true] at hall
      show scanFraction atEnd ('.' :: d :: (ds ++ s)) = _
      rw [scanFraction, hall.1, spanDigits_append hall.2 fun c hc => (hs c hc).1]
      rfl

/-- The exponent is taken off where nothing follows it that goes on a number. -/
theorem scanExponent_append (atEnd : Cause) {e : Option (Bool × List Char)} {s : List Char}
    (he : ∀ p ∈ e, IsDigits p.2) (hs : Delimits s) :
    scanExponent atEnd (exponentText e ++ s) = .ok (e, s) := by
  rcases e with - | ⟨down, ds⟩
  · show scanExponent atEnd s = _
    cases s with
    | nil => rfl
    | cons c s =>
      obtain ⟨-, -, h₁, h₂⟩ := hs c rfl
      simp [scanExponent, h₁, h₂]
  · obtain ⟨hne, hall⟩ := he (down, ds) rfl
    cases ds with
    | nil => exact absurd rfl hne
    | cons d ds =>
      rw [List.all_cons, Bool.and_eq_true] at hall
      have hspan := spanDigits_append hall.2 fun c hc => (hs c hc).1
      cases down with
      | true =>
        show scanExponent atEnd ('e' :: '-' :: d :: (ds ++ s)) = _
        simp [scanExponent, exponentSign, hall.1, hspan]
      | false =>
        show scanExponent atEnd ('e' :: '+' :: d :: (ds ++ s)) = _
        simp [scanExponent, exponentSign, hall.1, hspan]

/-- What stands behind the whole part of a literal starts with no digit. -/
theorem tail_head {f : Option (List Char)} {e : Option (Bool × List Char)} {s : List Char}
    (hs : Delimits s) : ∀ c ∈ (fractionText f ++ (exponentText e ++ s)).head?, c.isDigit = false := by
  intro c hc
  rcases f with - | f
  · rcases e with - | e
    · exact (hs c hc).1
    · cases hc
      decide
  · cases hc
    decide

/-- What stands behind the fraction of a literal starts with neither a digit nor a point. -/
theorem exponent_head {e : Option (Bool × List Char)} {s : List Char} (hs : Delimits s) :
    ∀ c ∈ (exponentText e ++ s).head?, c.isDigit = false ∧ c ≠ '.' := by
  intro c hc
  rcases e with - | e
  · exact ⟨(hs c hc).1, (hs c hc).2.1⟩
  · cases hc
    decide

/-- The sign is taken off the text of a literal. -/
theorem sign_text {l : NumberLiteral} (h : l.Proper) (s : List Char) :
    sign (l.text ++ s) =
      (l.negative, l.whole ++ (fractionText l.fraction ++ (exponentText l.exponent ++ s))) := by
  obtain ⟨negative, w, f, e⟩ := l
  obtain ⟨hne, hall⟩ := h.digits
  cases negative with
  | true => simp [text, sign]
  | false =>
    -- no digit is taken for the sign that is missing
    cases w with
    | nil => exact absurd rfl hne
    | cons d ds =>
      rw [List.all_cons, Bool.and_eq_true] at hall
      have hd : d ≠ '-' := by
        rintro rfl
        exact absurd hall.1 (by decide)
      simp only [text, List.append_assoc]
      show sign (d :: _) = _
      rw [sign]
      · rfl
      · intro t ht
        exact hd (List.cons.inj ht).1

/-- A proper literal is taken off the front of its text. -/
theorem scan_text {atEnd : Cause} {l : NumberLiteral} (h : l.Proper) {s : List Char}
    (hs : Delimits s) : scan atEnd (l.text ++ s) = .ok (l, s) := by
  have hw := scanWhole_append atEnd h.digits h.leading
    (tail_head (f := l.fraction) (e := l.exponent) hs)
  have hf := scanFraction_append atEnd h.fraction (exponent_head (e := l.exponent) hs)
  have he := scanExponent_append atEnd h.exponent hs
  rw [scan, sign_text h]
  simp only [hw, hf, he, bind, Except.bind]
  rfl

end NumberLiteral

end BrokerNode.Json
