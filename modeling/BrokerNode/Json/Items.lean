/-
BrokerNode/Json/Items.lean

The items of lists and objects: the marks between them, and the loops that read them.

The loop over the members of an object carries a state.  For each name a function of the state says
how the value is read and what the state is afterwards, or refuses the name.  Reading an object as a
value and reading it as a record are this one loop with two such functions.
-/
import BrokerNode.Json.StringLiteral

namespace BrokerNode.Json

/-! ### The marks between items -/

/-- Goes on to the next element of a list, behind the bracket (`first`) or behind an element.
Returns whether there is one; if not, the closing bracket has been read. -/
def nextElement (first : Bool) (s : List Char) : Reading Bool :=
  match skipBlanks s with
  | [] => .error (.here .endInList [])
  | c :: r =>
    if c = ']' then .ok (false, r)
    else if first then .ok (true, c :: r)
    else if c = ',' then
      match skipBlanks r with
      | [] => .error (.here .endInValue [])
      | d :: t => if d = ']' then .error (.next .trailingComma (d :: t)) else .ok (true, d :: t)
    else .error (.next .expectedListCommaOrEnd (c :: r))

/-- Goes on to the next member of an object, behind the brace (`first`) or behind a member.  Returns
whether there is one, in which case the opening quote of its name has been read; if not, the closing
brace has been read. -/
def nextMember (first : Bool) (s : List Char) : Reading Bool :=
  match skipBlanks s with
  | [] => .error (.here .endInObject [])
  | c :: r =>
    if c = '}' then .ok (false, r)
    else if first then
      if c = '"' then .ok (true, r) else .error (.next .keyMustBeString (c :: r))
    else if c = ',' then
      match skipBlanks r with
      | [] => .error (.here .endInValue [])
      | d :: t =>
        if d = '"' then .ok (true, t)
        else if d = '}' then .error (.next .trailingComma (d :: t))
        else .error (.next .keyMustBeString (d :: t))
    else .error (.next .expectedObjectCommaOrEnd (c :: r))

/-- Reads the colon behind a name. -/
def colon (s : List Char) : Except Fault (List Char) :=
  match skipBlanks s with
  | [] => .error (.here .endInObject [])
  | c :: r => if c = ':' then .ok r else .error (.next .expectedColon (c :: r))

theorem skipBlanks_cons_length {s r : List Char} {c : Char} (h : skipBlanks s = c :: r) :
    r.length < s.length := by
  have := skipBlanks_length_le s
  rw [h] at this
  exact this

theorem nextElement_length_le {first more : Bool} {s r : List Char}
    (h : nextElement first s = .ok (more, r)) : r.length ≤ s.length := by
  unfold nextElement at h
  split at h
  · cases h
  · next c t ht =>
    have h₁ := skipBlanks_cons_length ht
    split at h
    · cases h; omega
    · split at h
      · cases h; simp only [List.length_cons]; omega
      · split at h
        · split at h
          · cases h
          · next d u hu =>
            have h₂ := skipBlanks_cons_length hu
            split at h
            · cases h
            · cases h; simp only [List.length_cons]; omega
        · cases h

theorem nextElement_end_shorter {first : Bool} {s r : List Char}
    (h : nextElement first s = .ok (false, r)) : r.length < s.length := by
  unfold nextElement at h
  split at h
  · cases h
  · next c t ht =>
    have h₁ := skipBlanks_cons_length ht
    split at h
    · cases h; exact h₁
    · split at h
      · cases h
      · split at h
        · split at h
          · cases h
          · split at h <;> cases h
        · cases h

theorem nextMember_shorter {first more : Bool} {s r : List Char}
    (h : nextMember first s = .ok (more, r)) : r.length < s.length := by
  unfold nextMember at h
  split at h
  · cases h
  · next c t ht =>
    have h₁ := skipBlanks_cons_length ht
    split at h
    · cases h; exact h₁
    · split at h
      · split at h
        · cases h; exact h₁
        · cases h
      · split at h
        · split at h
          · cases h
          · next d u hu =>
            have h₂ := skipBlanks_cons_length hu
            split at h
            · cases h; omega
            · split at h <;> cases h
        · cases h

theorem colon_shorter {s r : List Char} (h : colon s = .ok r) : r.length < s.length := by
  unfold colon at h
  split at h
  · cases h
  · next c t ht =>
    split at h
    · cases h; exact skipBlanks_cons_length ht
    · cases h

/-! ### The loops -/

/-- Reads the elements of a list and its closing bracket. -/
def elements {α : Type} (item : Reader α) (first : Bool) (s : List Char) : Reading (List α) :=
  match _h : nextElement first s with
  | .error e => .error e
  | .ok (false, r) => .ok ([], r)
  | .ok (true, r) =>
    match _hr : item.read r with
    | .error e => .error e
    | .ok (a, r') =>
      match elements item false r' with
      | .ok (as, t) => .ok (a :: as, t)
      | .error e => .error e
termination_by s.length
decreasing_by
  have := nextElement_length_le _h
  have := item.shorter _hr
  omega

theorem elements_shorter {α : Type} {item : Reader α} {first : Bool} {s r : List Char}
    {as : List α} (h : elements item first s = .ok (as, r)) : r.length < s.length := by
  fun_induction elements item first s generalizing as r with
  | case1 => cases h
  | case2 first s t ht => cases h; exact nextElement_end_shorter ht
  | case3 => cases h
  | case4 first s t ht a u hu as' v hv ih =>
    cases h
    have h₁ := nextElement_length_le ht
    have h₂ := item.shorter hu
    have h₃ := ih hv
    omega
  | case5 => cases h

/-- The text behind the closing mark, if that comes next, and otherwise from the next character that
is not blank. -/
def afterClosing (mark : Char) (s : List Char) : List Char :=
  match skipBlanks s with
  | [] => []
  | c :: r => if c = mark then r else c :: r

/-- Reads the members of an object and its closing brace.  A refused name is a fault behind the
closing brace if that follows the name, and otherwise behind the blanks that follow it. -/
def members {σ : Type} (step : σ → String → Except Cause (Reader σ)) (first : Bool) (state : σ)
    (s : List Char) : Reading σ :=
  match _h : nextMember first s with
  | .error e => .error e
  | .ok (false, r) => .ok (state, r)
  | .ok (true, r) =>
    match _hn : StringLiteral.rest.read r with
    | .error e => .error e
    | .ok (name, r₁) =>
      match step state name with
      | .error c => .error (.here c (afterClosing '}' r₁))
      | .ok member =>
        match _hc : colon r₁ with
        | .error e => .error e
        | .ok r₂ =>
          match _hm : member.read r₂ with
          | .error e => .error e
          | .ok (state', r₃) => members step false state' r₃
termination_by s.length
decreasing_by
  have := nextMember_shorter _h
  have := StringLiteral.rest.shorter _hn
  have := colon_shorter _hc
  have := member.shorter _hm
  omega

theorem members_shorter {σ : Type} {step : σ → String → Except Cause (Reader σ)} {first : Bool}
    {state final : σ} {s r : List Char} (h : members step first state s = .ok (final, r)) :
    r.length < s.length := by
  fun_induction members step first state s with
  | case1 => cases h
  | case2 first state s t ht => cases h; exact nextMember_shorter ht
  | case3 => cases h
  | case4 => cases h
  | case5 => cases h
  | case6 => cases h
  | case7 first state s r₀ h₀ name r₁ hn member hs r₂ hc state' r₃ hm ih =>
    have h₁ := nextMember_shorter h₀
    have h₂ := StringLiteral.rest.shorter hn
    have h₃ := colon_shorter hc
    have h₄ := member.shorter hm
    have h₅ := ih h
    omega

end BrokerNode.Json
