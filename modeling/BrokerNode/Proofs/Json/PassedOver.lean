/-
BrokerNode/Proofs/Json/PassedOver.lean

Passing over what can be read.

Passing over a value checks less than reading it, so it cannot fail where reading does not, and it takes
the same characters off.  What a reader does and what passing over does are compared one item at a time:
the loop over the items of a bracket and the stack of open brackets take the same steps (`passItems`).
The main statement is `passedOver_value`: a text that is read as a value, however deep, is passed over
as far as the value goes, whatever brackets are open around it.
-/
import BrokerNode.Json.Record
import BrokerNode.Proofs.Json.ValueText
import Mathlib.Data.List.DropRight

namespace BrokerNode.Json

/-! ### Strings and numbers -/

namespace StringLiteral

theorem pass_quote (s : List Char) : pass ('"' :: s) = .ok s := by
  rw [pass]

theorem pass_escape {s r : List Char} (h : passEscape s = .ok r) : pass ('\\' :: s) = pass r := by
  rw [pass]
  split
  · next r' h' =>
    rw [h] at h'
    cases h'
    rfl
  · next e h' =>
    rw [h] at h'
    cases h'

theorem pass_fourHex {s r : List Char} {n : Nat} (h : fourHex.read s = .ok (n, r)) :
    pass ('\\' :: 'u' :: s) = pass r := by
  apply pass_escape
  rw [passEscape, h]

/-- An escape that is read as a character is passed over; where it stands for a surrogate pair, passing
over takes two steps. -/
theorem pass_of_escape {s r : List Char} {c : Char} (h : escape.read s = .ok (c, r)) :
    pass ('\\' :: s) = pass r := by
  simp only [escape] at h
  split at h
  · cases h
  · next s =>
    -- an escape by number
    unfold byNumber at h
    split at h
    · next n r₁ h₁ =>
      rw [pass_fourHex h₁]
      split at h
      · cases h
      split at h
      · -- the first half of a pair: the second half is an escape of its own
        unfold lowHalf at h
        split at h
        · cases h
        · cases h
        · next r₂ =>
          split at h
          · next low r₃ h₃ =>
            split at h
            · simp only [Except.ok.injEq, Prod.mk.injEq] at h
              rw [← h.2]
              exact pass_fourHex h₃
            · cases h
          · cases h
        · cases h
        · cases h
      · simp only [Except.ok.injEq, Prod.mk.injEq] at h
        rw [h.2]
    · cases h
  · next c' s' hu =>
    split at h
    · next d hd =>
      cases h
      apply pass_escape
      rw [passEscape, hd]
      exact hu
    · cases h

/-- The characters of a string are passed over where they are read. -/
theorem pass_of_characters {s cs r : List Char} (h : characters s = .ok (cs, r)) : pass s = .ok r := by
  fun_induction characters s generalizing cs r with
  | case1 => cases h
  | case2 =>
    cases h
    exact pass_quote _
  | case3 s c s' hc ds t hs ih =>
    cases h
    rw [pass_of_escape hc]
    exact ih hs
  | case4 => cases h
  | case5 => cases h
  | case6 => cases h
  | case7 c s hquote hslash hcontrol ds t hs ih =>
    cases h
    rw [pass]
    · rw [if_neg hcontrol]
      exact ih hs
    · exact hquote
    · exact hslash
  | case8 => cases h

theorem pass_of_rest {s r : List Char} {t : String} (h : rest.read s = .ok (t, r)) :
    pass s = .ok r := by
  simp only [rest] at h
  split at h
  · next cs r' h' =>
    cases h
    exact pass_of_characters h'
  · cases h

end StringLiteral

namespace NumberLiteral

variable {s r : List Char} (a b : Cause)

/-! What a number is scanned as does not depend on the cause that is given at the end of the text. -/

theorem scanWhole_ok {w : List Char} (h : scanWhole a s = .ok (w, r)) :
    scanWhole b s = .ok (w, r) := by
  unfold scanWhole at h ⊢
  split at h
  · cases h
  · exact h
  · exact h

theorem scanFraction_ok {f : Option (List Char)} (h : scanFraction a s = .ok (f, r)) :
    scanFraction b s = .ok (f, r) := by
  unfold scanFraction at h ⊢
  split at h
  · split at h
    · cases h
    · exact h
  · exact h

theorem scanExponent_ok {e : Option (Bool × List Char)} (h : scanExponent a s = .ok (e, r)) :
    scanExponent b s = .ok (e, r) := by
  unfold scanExponent at h ⊢
  split at h
  · exact h
  · split at h
    · next hc =>
      rw [if_pos hc]
      split at h
      · cases h
      · exact h
    · next hc =>
      rw [if_neg hc]
      exact h

theorem scan_ok {l : NumberLiteral} (h : scan a s = .ok (l, r)) : scan b s = .ok (l, r) := by
  simp only [scan, bind, Except.bind] at h ⊢
  split at h
  · cases h
  · next p hp =>
    rw [scanWhole_ok a b hp]
    dsimp only
    split at h
    · cases h
    · next q hq =>
      rw [scanFraction_ok a b hq]
      dsimp only
      split at h
      · cases h
      · next t ht =>
        rw [scanExponent_ok a b ht]
        exact h

theorem pass_of_read {n : Number} (h : read.read s = .ok (n, r)) : pass s = .ok r := by
  simp only [read] at h
  split at h
  · next l r' hl =>
    rw [pass, scan_ok _ .invalidNumber hl]
    split at h
    · cases h
      rfl
    · cases h
  · cases h

end NumberLiteral

/-! ### Steps of passing over -/

section Steps

variable {outer : List Bracket} {s r t : List Char} {c : Char}

theorem skipBlanks_skipBlanks (s : List Char) : skipBlanks (skipBlanks s) = skipBlanks s :=
  List.dropWhile_idempotent isBlank s

theorem passThrough_value_list (h : skipBlanks s = '[' :: r) :
    passThrough .value outer s = passThrough (.first .list) outer r := by
  rw [passThrough, h]
  rfl

theorem passThrough_value_object (h : skipBlanks s = '{' :: r) :
    passThrough .value outer s = passThrough (.first .object) outer r := by
  rw [passThrough, h]
  rfl

theorem passThrough_value_scalar (h : skipBlanks s = c :: r) (hlist : c ≠ '[') (hobject : c ≠ '{')
    (hs : passScalar (c :: r) = .ok t) :
    passThrough .value outer s = passThrough .separator outer t := by
  rw [passThrough, h]
  dsimp only
  rw [if_neg hlist, if_neg hobject]
  split
  · next u hu =>
    rw [hs] at hu
    cases hu
    rfl
  · next e he =>
    rw [hs] at he
    cases he

/-- Blanks in front of a value do not matter. -/
theorem passThrough_value_skipBlanks (outer : List Bracket) (s : List Char) :
    passThrough .value outer (skipBlanks s) = passThrough .value outer s := by
  rw [passThrough, passThrough, skipBlanks_skipBlanks]

theorem passThrough_first_end {b : Bracket} (h : skipBlanks s = b.closing :: r) :
    passThrough (.first b) outer s = passThrough .separator outer r := by
  rw [passThrough, h]
  exact if_pos rfl

theorem passThrough_first_item {b : Bracket} (h : skipBlanks s = c :: r) (hc : c ≠ b.closing) :
    passThrough (.first b) outer s = passThrough (.item b) outer (c :: r) := by
  rw [passThrough, h]
  exact if_neg hc

theorem passThrough_separator_end {b : Bracket} (h : skipBlanks s = b.closing :: r) :
    passThrough .separator (b :: outer) s = passThrough .separator outer r := by
  have hcomma : b.closing ≠ ',' := by cases b <;> decide
  rw [passThrough, h]
  dsimp only
  rw [if_neg hcomma, if_pos rfl]

theorem passThrough_separator_comma {b : Bracket} (h : skipBlanks s = ',' :: r) :
    passThrough .separator (b :: outer) s = passThrough (.item b) outer r := by
  rw [passThrough, h]
  rfl

theorem passThrough_item_list :
    passThrough (.item .list) outer s = passThrough .value (.list :: outer) s := by
  conv_lhs => rw [passThrough]

theorem passThrough_item_object (h : passName s = .ok r) :
    passThrough (.item .object) outer s = passThrough .value (.object :: outer) r := by
  conv_lhs => rw [passThrough]
  split
  · next u hu =>
    rw [h] at hu
    cases hu
    rfl
  · next e he =>
    rw [h] at he
    cases he

end Steps

/-! ### Items -/

/-- Passes over the items of a bracket behind its opening mark (`first`) or behind an item, and on. -/
def passItems (b : Bracket) (first : Bool) (outer : List Bracket) (s : List Char) :
    Except Fault (List Char) :=
  if first then passThrough (.first b) outer s else passThrough .separator (b :: outer) s

/-- What is read with a reader is passed over as one value. -/
def Reader.PassedOver {α : Type} (rd : Reader α) : Prop :=
  ∀ {s r : List Char} {a : α}, rd.read s = .ok (a, r) →
    ∀ outer, passThrough .value outer s = passThrough .separator outer r

section Items

variable {outer : List Bracket} {first : Bool} {s r : List Char}

theorem passItems_of_nextElement_end (h : nextElement first s = .ok (false, r)) :
    passItems .list first outer s = passThrough .separator outer r := by
  unfold nextElement at h
  split at h
  · cases h
  · next c t ht =>
    split at h
    · next hc =>
      cases h
      subst hc
      cases first with
      | true => exact passThrough_first_end ht
      | false => exact passThrough_separator_end ht
    · split at h
      · cases h
      split at h
      · split at h
        · cases h
        · split at h <;> cases h
      · cases h

theorem passItems_of_nextElement (h : nextElement first s = .ok (true, r)) :
    passItems .list first outer s = passThrough .value (.list :: outer) r := by
  unfold nextElement at h
  split at h
  · cases h
  · next c t ht =>
    split at h
    · cases h
    · next hc =>
      split at h
      · next hfirst =>
        cases h
        rw [hfirst]
        exact (passThrough_first_item (b := .list) ht hc).trans passThrough_item_list
      · next hfirst =>
        split at h
        · next hcomma =>
          subst hcomma
          -- reading looks for the next element behind the blanks, passing over starts in front of them
          have hpass : passItems .list first outer s = passThrough .value (.list :: outer) t := by
            rw [passItems, if_neg hfirst]
            exact (passThrough_separator_comma ht).trans passThrough_item_list
          split at h
          · cases h
          · next d u hu =>
            split at h
            · cases h
            · cases h
              rw [hpass, ← passThrough_value_skipBlanks, hu]
        · cases h

/-- The elements of a list are passed over where they are read. -/
theorem passItems_of_elements {α : Type} {item : Reader α} (hitem : item.PassedOver) {as : List α}
    (h : elements item first s = .ok (as, r)) (outer : List Bracket) :
    passItems .list first outer s = passThrough .separator outer r := by
  fun_induction elements item first s generalizing as r with
  | case1 => cases h
  | case2 first s t ht =>
    cases h
    exact passItems_of_nextElement_end ht
  | case3 => cases h
  | case4 first s t ht a u hu as' v hv ih =>
    cases h
    rw [passItems_of_nextElement ht, hitem hu]
    exact ih hv
  | case5 => cases h

theorem passItems_of_nextMember_end (h : nextMember first s = .ok (false, r)) :
    passItems .object first outer s = passThrough .separator outer r := by
  unfold nextMember at h
  split at h
  · cases h
  · next c t ht =>
    split at h
    · next hc =>
      cases h
      subst hc
      cases first with
      | true => exact passThrough_first_end ht
      | false => exact passThrough_separator_end ht
    · split at h
      · split at h <;> cases h
      split at h
      · split at h
        · cases h
        · split at h
          · cases h
          · split at h <;> cases h
      · cases h

/-- The name of a member is passed over with its colon. -/
theorem passName_of_read {t u : List Char} {name : String} (h : skipBlanks s = '"' :: t)
    (hname : StringLiteral.rest.read t = .ok (name, u)) (hcolon : colon u = .ok r) :
    passName s = .ok r := by
  rw [passName, h]
  dsimp only
  rw [if_pos rfl, StringLiteral.pass_of_rest hname]
  exact hcolon

theorem passItems_of_nextMember {t u : List Char} {name : String}
    (h : nextMember first s = .ok (true, t)) (hname : StringLiteral.rest.read t = .ok (name, u))
    (hcolon : colon u = .ok r) :
    passItems .object first outer s = passThrough .value (.object :: outer) r := by
  have hitem : ∀ {s}, skipBlanks s = '"' :: t →
      passThrough (.item .object) outer s = passThrough .value (.object :: outer) r :=
    fun hs => passThrough_item_object (passName_of_read hs hname hcolon)
  unfold nextMember at h
  split at h
  · cases h
  · next c v hv =>
    split at h
    · cases h
    · next hend =>
      split at h
      · next hfirst =>
        split at h
        · next hc =>
          cases h
          subst hc
          rw [hfirst]
          -- no comma stands in front of the first name
          have hquote : skipBlanks ('"' :: t) = '"' :: t := rfl
          exact (passThrough_first_item (b := .object) hv hend).trans (hitem hquote)
        · cases h
      · next hfirst =>
        split at h
        · next hcomma =>
          subst hcomma
          rw [passItems, if_neg hfirst, passThrough_separator_comma hv]
          split at h
          · cases h
          · next d w hw =>
            split at h
            · next hd =>
              cases h
              subst hd
              exact hitem hw
            · split at h <;> cases h
        · cases h

/-- The members of an object are passed over where they are read, if the value of every member is. -/
theorem passItems_of_members {σ : Type} {step : σ → String → Except Cause (Reader σ)}
    (hstep : ∀ state name member, step state name = .ok member → member.PassedOver)
    {state final : σ} (h : members step first state s = .ok (final, r)) (outer : List Bracket) :
    passItems .object first outer s = passThrough .separator outer r := by
  fun_induction members step first state s with
  | case1 => cases h
  | case2 first state s t ht =>
    cases h
    exact passItems_of_nextMember_end ht
  | case3 => cases h
  | case4 => cases h
  | case5 => cases h
  | case6 => cases h
  | case7 first state s r₀ h₀ name r₁ hn member hs r₂ hc state' r₃ hm ih =>
    rw [passItems_of_nextMember h₀ hn hc, hstep _ _ _ hs hm]
    exact ih h

end Items

/-! ### Values -/

theorem passedOver_map {α β : Type} {rd : Reader α} (h : rd.PassedOver) (f : α → β) :
    (rd.map f).PassedOver := by
  intro s r b hb outer
  obtain ⟨a, ha, -⟩ := Reader.read_map.mp hb
  exact h ha outer

theorem ok_of_map_word {α : Type} {w s r : List Char} {a b : α}
    (h : (word w s).map (fun t => (a, t)) = .ok (b, r)) : word w s = .ok r := by
  cases hw : word w s with
  | error e =>
    rw [hw] at h
    cases h
  | ok t =>
    rw [hw] at h
    cases h
    rfl

/-- A value that opens no bracket is passed over as a scalar. -/
theorem passScalar_of_readValue {inner : Option (Reader Json)} {s t r : List Char} {c : Char}
    {v : Json} (ht : skipBlanks s = c :: t) (hlist : c ≠ '[') (hobject : c ≠ '{')
    (h : readValue inner s = .ok (v, r)) : passScalar (c :: t) = .ok r := by
  rw [readValue, ht] at h
  dsimp only at h
  rw [if_neg hlist, if_neg hobject] at h
  rw [passScalar]
  -- the first character decides in both, and in the same order
  split at h
  · next hc =>
    rw [if_pos hc]
    split at h
    · next text u hu =>
      cases h
      exact StringLiteral.pass_of_rest hu
    · cases h
  next hc =>
  rw [if_neg hc]
  split at h
  · next hc =>
    rw [if_pos hc]
    exact ok_of_map_word h
  next hc =>
  rw [if_neg hc]
  split at h
  · next hc =>
    rw [if_pos hc]
    exact ok_of_map_word h
  next hc =>
  rw [if_neg hc]
  split at h
  · next hc =>
    rw [if_pos hc]
    exact ok_of_map_word h
  next hc =>
  rw [if_neg hc]
  split at h
  · next hc =>
    rw [if_pos hc]
    split at h
    · next n u hu =>
      cases h
      exact NumberLiteral.pass_of_read hu
    · cases h
  · cases h

/-- A value is passed over where it is read, if the values inside it are. -/
theorem passThrough_of_readValue {inner : Option (Reader Json)}
    (hinner : ∀ rd ∈ inner, rd.PassedOver) {s r : List Char} {v : Json}
    (h : readValue inner s = .ok (v, r)) (outer : List Bracket) :
    passThrough .value outer s = passThrough .separator outer r := by
  have hread := h
  unfold readValue at h
  split at h
  · cases h
  · next c t ht =>
    split at h
    · -- a list: its elements are read with the inner reader
      next hc =>
      subst hc
      split at h
      · cases h
      · next rd =>
        split at h
        · next xs u hu =>
          cases h
          exact (passThrough_value_list ht).trans (passItems_of_elements (hinner rd rfl) hu outer)
        · cases h
    next hlist =>
    split at h
    · -- an object: so are the values of its members
      next hc =>
      subst hc
      split at h
      · cases h
      · next rd =>
        split at h
        · next ms u hu =>
          cases h
          refine (passThrough_value_object ht).trans (passItems_of_members ?_ hu outer)
          intro done name member hm
          cases hm
          exact passedOver_map (hinner rd rfl) _
        · cases h
    next hobject =>
    exact passThrough_value_scalar ht hlist hobject (passScalar_of_readValue ht hlist hobject hread)

/-- What is read as a value is passed over as one, however deep it is. -/
theorem passedOver_value (nesting : Nat) : (value nesting).PassedOver := by
  induction nesting with
  | zero =>
    intro s r v h
    rw [value_read] at h
    exact passThrough_of_readValue (by rintro rd ⟨⟩) h
  | succ nesting ih =>
    intro s r v h
    rw [value_read] at h
    refine passThrough_of_readValue ?_ h
    intro rd hrd
    cases hrd
    exact ih

/-- A field that may be absent is passed over where it is read. -/
theorem passedOver_optional {rd : Reader Json} (h : rd.PassedOver) : (optional rd).PassedOver := by
  intro s r v hv outer
  simp only [optional] at hv
  split at hv
  · next t ht =>
    refine passThrough_value_scalar ht (by decide) (by decide) ?_
    exact ok_of_map_word hv
  · exact passedOver_map h some hv outer

/-- What is passed over as one value is skipped. -/
theorem skip_of_passedOver {α : Type} {rd : Reader α} (h : rd.PassedOver) {s r : List Char} {a : α}
    (ha : rd.read s = .ok (a, r)) : skip.read s = .ok ((), r) := by
  have hpass := h ha []
  rw [passThrough.eq_def .separator] at hpass
  simp only [skip, hpass]

end BrokerNode.Json
