/-
BrokerNode/Json/Skip.lean

Passing over a value that nobody asks for.

The value is checked to be well formed but not built.  The lists and objects that are open form a
stack, so nothing limits how deeply they may be nested.  The checks are somewhat coarser than those
of reading: numbers have no range, halves of surrogate pairs need not meet, and a closing bracket
behind a comma is not told apart from anything else that is not a value.
-/
import BrokerNode.Json.Items
import BrokerNode.Json.NumberLiteral

namespace BrokerNode.Json

/-- A list or an object that is open. -/
inductive Bracket where
  | list
  | object
deriving DecidableEq, Repr

namespace Bracket

/-- The mark that closes it. -/
def closing : Bracket → Char
  | .list => ']'
  | .object => '}'

/-- The cause when the text ends inside. -/
def endCause : Bracket → Cause
  | .list => .endInList
  | .object => .endInObject

/-- The cause when an item is followed by neither a comma nor the closing mark. -/
def separatorCause : Bracket → Cause
  | .list => .expectedListCommaOrEnd
  | .object => .expectedObjectCommaOrEnd

end Bracket

/-- Passes over a value that is neither a list nor an object. -/
def passScalar (s : List Char) : Except Fault (List Char) :=
  match s with
  | [] => .error (.here .endInValue [])
  | c :: r =>
    if c = '"' then StringLiteral.pass r
    else if c = 'n' then word ['u', 'l', 'l'] r
    else if c = 't' then word ['r', 'u', 'e'] r
    else if c = 'f' then word ['a', 'l', 's', 'e'] r
    else if c = '-' ∨ c.isDigit then NumberLiteral.pass (c :: r)
    else .error (.next .expectedValue (c :: r))

theorem passScalar_shorter {s r : List Char} (h : passScalar s = .ok r) :
    r.length < s.length := by
  unfold passScalar at h
  split at h
  · cases h
  · next c t =>
    simp only [List.length_cons]
    split at h
    · have := StringLiteral.pass_shorter h; omega
    · split at h
      · have := word_length_le h; omega
      · split at h
        · have := word_length_le h; omega
        · split at h
          · have := word_length_le h; omega
          · split at h
            · unfold NumberLiteral.pass at h
              split at h
              · next l u hu =>
                cases h
                exact NumberLiteral.scan_shorter hu
              · cases h
            · cases h

/-- Passes over the name of a member and its colon. -/
def passName (s : List Char) : Except Fault (List Char) :=
  match skipBlanks s with
  | [] => .error (.here .endInObject [])
  | c :: r =>
    if c = '"' then
      match StringLiteral.pass r with
      | .ok t => colon t
      | .error e => .error e
    else .error (.next .keyMustBeString (c :: r))

theorem passName_shorter {s r : List Char} (h : passName s = .ok r) : r.length < s.length := by
  unfold passName at h
  split at h
  · cases h
  · next c t ht =>
    have h₁ := skipBlanks_cons_length ht
    split at h
    · split at h
      · next u hu =>
        have h₂ := StringLiteral.pass_shorter hu
        have h₃ := colon_shorter h
        omega
      · cases h
    · cases h

/-- What is due next while values are passed over. -/
inductive Due where
  | value
  | first (b : Bracket)
  | item (b : Bracket)
  | separator

/-- The order in which things become due where no character is taken off. -/
def Due.rank : Due → Nat
  | .value => 0
  | .item _ => 1
  | .first _ => 2
  | .separator => 3

/-- Passes over what is due and everything else up to the end of the outermost value; `outer` are the
brackets around it, innermost first. -/
def passThrough (due : Due) (outer : List Bracket) (s : List Char) : Except Fault (List Char) :=
  match due, outer with
  | .value, outer =>
    match _h : skipBlanks s with
    | [] => .error (.here .endInValue [])
    | c :: r =>
      if c = '[' then passThrough (.first .list) outer r
      else if c = '{' then passThrough (.first .object) outer r
      else
        match _hs : passScalar (c :: r) with
        | .ok t => passThrough .separator outer t
        | .error e => .error e
  | .first b, outer =>
    match _h : skipBlanks s with
    | [] => .error (.here b.endCause [])
    | c :: r =>
      if c = b.closing then passThrough .separator outer r
      else passThrough (.item b) outer (c :: r)
  | .item .list, outer => passThrough .value (.list :: outer) s
  | .item .object, outer =>
    match _h : passName s with
    | .ok r => passThrough .value (.object :: outer) r
    | .error e => .error e
  | .separator, [] => .ok s
  | .separator, b :: outer =>
    match _h : skipBlanks s with
    | [] => .error (.here b.endCause [])
    | c :: r =>
      if c = ',' then passThrough (.item b) outer r
      else if c = b.closing then passThrough .separator outer r
      else .error (.next b.separatorCause (c :: r))
termination_by (s.length, due.rank)
decreasing_by
  all_goals try have h₁ := skipBlanks_cons_length _h
  · exact Prod.Lex.left _ _ h₁
  · exact Prod.Lex.left _ _ h₁
  · have h₂ := skipBlanks_length_le s
    have h₃ := passScalar_shorter _hs
    rw [_h] at h₂
    exact Prod.Lex.left _ _ (by omega)
  · exact Prod.Lex.left _ _ h₁
  · have h₂ := skipBlanks_length_le s
    rw [_h] at h₂
    rcases Nat.lt_or_eq_of_le h₂ with h₃ | h₃
    · exact Prod.Lex.left _ _ h₃
    · rw [h₃]
      exact Prod.Lex.right _ (by simp [Due.rank])
  · exact Prod.Lex.right _ (by simp [Due.rank])
  · exact Prod.Lex.left _ _ (passName_shorter _h)
  · exact Prod.Lex.left _ _ h₁
  · exact Prod.Lex.left _ _ h₁

theorem passThrough_length_le {due : Due} {outer : List Bracket} {s r : List Char}
    (h : passThrough due outer s = .ok r) : r.length ≤ s.length := by
  fun_induction passThrough due outer s with
  | case1 => cases h
  | case2 s outer t ht ih =>
    have := skipBlanks_cons_length ht
    have := ih h
    omega
  | case3 s outer t ht hc ih =>
    have := skipBlanks_cons_length ht
    have := ih h
    omega
  | case4 s outer c t ht hc hc' u hu ih =>
    have h₁ := skipBlanks_length_le s
    rw [ht] at h₁
    have := passScalar_shorter hu
    have := ih h
    omega
  | case5 => cases h
  | case6 => cases h
  | case7 s b outer t ht ih =>
    have := skipBlanks_cons_length ht
    have := ih h
    omega
  | case8 s b outer c t ht hc ih =>
    have h₁ := skipBlanks_length_le s
    rw [ht] at h₁
    have := ih h
    omega
  | case9 s outer ih => exact ih h
  | case10 s outer t ht ih =>
    have := passName_shorter ht
    have := ih h
    omega
  | case11 => cases h
  | case12 s => cases h; exact Nat.le_refl _
  | case13 => cases h
  | case14 s b outer t ht ih =>
    have := skipBlanks_cons_length ht
    have := ih h
    omega
  | case15 s b outer t ht hc ih =>
    have := skipBlanks_cons_length ht
    have := ih h
    omega
  | case16 => cases h

/-- Passing over a value takes at least one character. -/
theorem passThrough_value_shorter {outer : List Bracket} {s r : List Char}
    (h : passThrough .value outer s = .ok r) : r.length < s.length := by
  rw [passThrough] at h
  split at h
  · cases h
  · next c t ht =>
    have h₁ := skipBlanks_cons_length ht
    split at h
    · have := passThrough_length_le h; omega
    · split at h
      · have := passThrough_length_le h; omega
      · split at h
        · next u hu =>
          have h₂ := skipBlanks_length_le s
          rw [ht] at h₂
          have h₃ := passScalar_shorter hu
          have h₄ := passThrough_length_le h
          omega
        · cases h

/-- Passes over one value. -/
def skip : Reader Unit where
  read s :=
    match passThrough .value [] s with
    | .ok r => .ok ((), r)
    | .error e => .error e
  shorter {s u r} h := by
    split at h
    · next r' h' => cases h; exact passThrough_value_shorter h'
    · cases h

end BrokerNode.Json
