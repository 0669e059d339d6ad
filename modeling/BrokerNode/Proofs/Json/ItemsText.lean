/-
BrokerNode/Proofs/Json/ItemsText.lean

The loops over the items of lists and objects, on the texts that are written for them.

One round of a loop is stated on its own (`elements_next`, `members_next`): what is read in this round,
and what the loop goes on with.  From it follow, by induction on the items, what a loop makes of a
written list (`elements_written`) and of written members (`members_written`).  The latter is about any
step that appends the members it accepts; reading an object as a value and reading it as a record are
two such steps.

What the loops build is found the same way, in the other direction: a property of every item that is
read holds of every element (`elements_all`), and an invariant of the steps holds at the end
(`members_invariant`).
-/
import BrokerNode.Json.Items
import BrokerNode.Json.Writer
import BrokerNode.Proofs.Json.Literal
import BrokerNode.Proofs.Json.StringText

namespace BrokerNode.Json

/-! ### Texts of items -/

/-- The texts of items behind the bracket (`first`) or behind another item. -/
def listed (first : Bool) (ts : List (List Char)) : List Char :=
  if first then separated ts else ts.flatMap (',' :: ·)

@[simp] theorem listed_nil (first : Bool) : listed first [] = [] := by
  cases first <;> rfl

theorem listed_cons (first : Bool) (t : List Char) (ts : List (List Char)) :
    listed first (t :: ts) = (if first then [] else [',']) ++ (t ++ listed false ts) := by
  cases first with
  | false => rfl
  | true =>
    show separated (t :: ts) = t ++ listed false ts
    induction ts generalizing t with
    | nil => simp [separated]
    | cons u us ih =>
      rw [separated, ih u]
      · rfl
      · exact List.cons_ne_nil u us

/-- Behind an item that was written stands a comma or the closing mark. -/
theorem delimits_listed (ts : List (List Char)) {s : List Char} (hs : Delimits s) :
    Delimits (listed false ts ++ s) := by
  cases ts with
  | nil => exact hs
  | cons t ts => exact delimits_comma _

theorem skipBlanks_cons {c : Char} (h : isBlank c = false) (s : List Char) :
    skipBlanks (c :: s) = c :: s := by
  simp [skipBlanks, h]

/-! ### One round -/

section Elements

variable {α : Type} {item : Reader α}

theorem nextElement_end (first : Bool) (s : List Char) :
    nextElement first (']' :: s) = .ok (false, s) := by
  cases first <;> rfl

/-- The next element is found where one was written. -/
theorem nextElement_written (first : Bool) {c : Char} (hb : isBlank c = false) (hc : c ≠ ']')
    (s : List Char) :
    nextElement first ((if first then [] else [',']) ++ c :: s) = .ok (true, c :: s) := by
  cases first with
  | true =>
    show nextElement true (c :: s) = _
    simp [nextElement, skipBlanks_cons hb, hc]
  | false =>
    show nextElement false (',' :: c :: s) = _
    have hcomma : skipBlanks (',' :: c :: s) = ',' :: c :: s := skipBlanks_cons (by decide) _
    simp [nextElement, hcomma, skipBlanks_cons hb, hc]

/-- One round of the loop over elements. -/
theorem elements_next {first : Bool} {s t : List Char} (h : nextElement first s = .ok (true, t)) :
    (elements item first s).toOption = (item.read t).toOption.bind fun p =>
      (elements item false p.2).toOption.map fun q => (p.1 :: q.1, q.2) := by
  rw [elements]
  split
  · next e he =>
    rw [h] at he
    cases he
  · next u hu =>
    rw [h] at hu
    cases hu
  · next u hu =>
    rw [h] at hu
    cases hu
    split
    · next e he =>
      rw [he]
      rfl
    · next a r hr =>
      rw [hr]
      show _ = ((elements item false r).toOption.map fun q => (a :: q.1, q.2))
      cases elements item false r <;> rfl

/-- The end of the loop over elements. -/
theorem elements_end (first : Bool) (s : List Char) :
    elements item first (']' :: s) = .ok ([], s) := by
  rw [elements]
  split
  · next e he =>
    rw [nextElement_end] at he
    cases he
  · next u hu =>
    rw [nextElement_end] at hu
    cases hu
    rfl
  · next u hu =>
    rw [nextElement_end] at hu
    cases hu

end Elements

section Members

variable {σ : Type} {step : σ → String → Except Cause (Reader σ)}

theorem nextMember_end (first : Bool) (s : List Char) :
    nextMember first ('}' :: s) = .ok (false, s) := by
  cases first <;> rfl

/-- The next member is found where one was written. -/
theorem nextMember_written (first : Bool) (s : List Char) :
    nextMember first ((if first then [] else [',']) ++ '"' :: s) = .ok (true, s) := by
  cases first <;> rfl

theorem colon_cons (s : List Char) : colon (':' :: s) = .ok s := rfl

/-- The text of a member, with what follows it, opens with a quote. -/
theorem writeMember_append (name : String) (t s : List Char) :
    writeMember name t ++ s =
      '"' :: (name.toList.flatMap StringLiteral.writeChar ++ '"' :: ':' :: (t ++ s)) := by
  rw [writeMember, List.append_assoc, StringLiteral.write_append]
  rfl

/-- One round of the loop over members, for a member whose name is accepted. -/
theorem members_round {first : Bool} {state : σ} {name : String} {member : Reader σ}
    {s t u v : List Char} (hmark : nextMember first s = .ok (true, t))
    (hname : StringLiteral.rest.read t = .ok (name, u)) (hstep : step state name = .ok member)
    (hcolon : colon u = .ok v) :
    members step first state s =
      (member.read v).bind fun p => members step false p.1 p.2 := by
  rw [members]
  -- in the order of the loop: the mark in front, the name, the step, the colon, the value
  split
  · next e he =>
    rw [hmark] at he
    cases he
  · next t' ht =>
    rw [hmark] at ht
    cases ht
  · next t' ht =>
    rw [hmark] at ht
    cases ht
    split
    · next e he =>
      rw [hname] at he
      cases he
    · next k r hk =>
      rw [hname] at hk
      cases hk
      split
      · next c hc =>
        rw [hstep] at hc
        cases hc
      · next m hm =>
        rw [hstep] at hm
        cases hm
        split
        · next e he =>
          rw [hcolon] at he
          cases he
        · next r hr =>
          rw [hcolon] at hr
          cases hr
          split
          · next e he =>
            rw [he]
            rfl
          · next state' r hr =>
            rw [hr]
            rfl

/-- The loop over members ends where no member follows. -/
theorem members_of_end {first : Bool} {s r : List Char} (h : nextMember first s = .ok (false, r))
    (state : σ) : members step first state s = .ok (state, r) := by
  rw [members]
  split
  · next e he =>
    rw [h] at he
    cases he
  · next u hu =>
    rw [h] at hu
    cases hu
    rfl
  · next u hu =>
    rw [h] at hu
    cases hu

/-- One round of the loop over members, on the text of a member whose name is accepted. -/
theorem members_next (first : Bool) {state : σ} {name : String} {member : Reader σ}
    (h : step state name = .ok member) (t s : List Char) :
    (members step first state ((if first then [] else [',']) ++ (writeMember name t ++ s))).toOption =
      (member.read (t ++ s)).toOption.bind fun p => (members step false p.1 p.2).toOption := by
  rw [writeMember_append, members_round (nextMember_written first _)
    (StringLiteral.rest_write name _) h (colon_cons _)]
  cases member.read (t ++ s) <;> rfl

/-- The end of the loop over members. -/
theorem members_end (first : Bool) (state : σ) (s : List Char) :
    members step first state ('}' :: s) = .ok (state, s) :=
  members_of_end (nextMember_end first s) state

end Members

/-! ### All rounds -/

/-- What the loop over elements makes of a written list, `f` being what an element is read as. -/
theorem elements_written {α : Type} {item : Reader α} {f : Json → Option α} {xs : List Json}
    (hstart : ∀ x ∈ xs, ∃ c cs, write x = c :: cs ∧ isBlank c = false ∧ c ≠ ']')
    (hread : ∀ x ∈ xs, ∀ s, Delimits s →
      (item.read (write x ++ s)).toOption = (f x).map fun a => (a, s))
    (first : Bool) (s : List Char) :
    (elements item first (listed first (writeElements xs) ++ ']' :: s)).toOption =
      (xs.mapM f).map fun as => (as, s) := by
  induction xs generalizing first with
  | nil =>
    rw [writeElements, listed_nil, List.nil_append, elements_end]
    rfl
  | cons x xs ih =>
    have ih := ih (fun y hy => hstart y (by simp [hy])) (fun y hy => hread y (by simp [hy])) false
    obtain ⟨c, cs, hc, hblank, hend⟩ := hstart x (by simp)
    -- one round: the mark in front of the element, the element, and the rest of the list
    have hnext := nextElement_written first hblank hend
      (cs ++ (listed false (writeElements xs) ++ ']' :: s))
    have hx := hread x (by simp) (listed false (writeElements xs) ++ ']' :: s)
      (delimits_listed _ (delimits_bracket s))
    rw [← List.cons_append, ← hc] at hnext
    rw [writeElements, listed_cons, List.append_assoc, List.append_assoc, elements_next hnext, hx,
      List.mapM_cons]
    cases f x with
    | none => rfl
    | some a =>
      show ((elements item false _).toOption.map fun q => (a :: q.1, q.2)) = _
      rw [ih]
      cases xs.mapM f <;> rfl

theorem toOption_read_map {α β : Type} {rd : Reader α} {f : α → β} {s : List Char} :
    ((rd.map f).read s).toOption = (rd.read s).toOption.map fun p => (f p.1, p.2) := by
  simp only [Reader.map]
  cases rd.read s <;> rfl

/-- What the loop over members makes of written members, `f` being what a value is read as.  The step
accepts a name that stands in a relation to all earlier ones, and appends the member. -/
theorem members_written {α : Type} {rd : Reader α} {f : Json → Option α}
    {step : List (String × α) → String → Except Cause (Reader (List (String × α)))}
    {R : String → String → Prop} {ms : List (String × Json)}
    (hstep : ∀ done, ∀ m ∈ ms, (∀ k ∈ done.map Prod.fst, R k m.1) →
      step done m.1 = .ok (rd.map fun a => done ++ [(m.1, a)]))
    (hread : ∀ m ∈ ms, ∀ s, Delimits s →
      (rd.read (write m.2 ++ s)).toOption = (f m.2).map fun a => (a, s))
    (first : Bool) (done : List (String × α))
    (hnames : (done.map Prod.fst ++ ms.map Prod.fst).Pairwise R) (s : List Char) :
    (members step first done (listed first (writeMembers ms) ++ '}' :: s)).toOption =
      (ms.mapM fun m => (f m.2).map (Prod.mk m.1)).map fun as => (done ++ as, s) := by
  induction ms generalizing first done with
  | nil =>
    rw [writeMembers, listed_nil, List.nil_append, members_end]
    simp [Except.toOption]
  | cons m ms ih =>
    obtain ⟨name, x⟩ := m
    have ih := fun a => ih (fun d n hn => hstep d n (by simp [hn]))
      (fun n hn => hread n (by simp [hn])) false (done ++ [(name, a)])
      (by simpa using hnames)
    have hx := hread (name, x) (by simp) (listed false (writeMembers ms) ++ '}' :: s)
      (delimits_listed _ (delimits_brace s))
    -- the names so far are those in front of this one, so the step accepts it
    have hearlier : ∀ k ∈ done.map Prod.fst, R k name := by
      intro k hk
      exact (List.pairwise_append.mp hnames).2.2 k hk name (by simp)
    rw [writeMembers, listed_cons, List.append_assoc, List.append_assoc,
      members_next first (hstep done (name, x) (by simp) hearlier), List.mapM_cons]
    have hmap : ((rd.map fun a => done ++ [(name, a)]).read
        (write x ++ (listed false (writeMembers ms) ++ '}' :: s))).toOption =
        (f x).map fun a => (done ++ [(name, a)], listed false (writeMembers ms) ++ '}' :: s) := by
      rw [toOption_read_map, hx, Option.map_map]
      rfl
    rw [hmap]
    cases f x with
    | none => rfl
    | some a =>
      show (members step false (done ++ [(name, a)]) _).toOption = _
      rw [ih a]
      show _ = Option.map _ ((ms.mapM fun m => (f m.2).map (Prod.mk m.1)).bind fun as =>
        some ((name, a) :: as))
      cases ms.mapM fun m => (f m.2).map (Prod.mk m.1) with
      | none => rfl
      | some as => simp

/-! ### What the loops build -/

/-- Every element has a property that every item has. -/
theorem elements_all {α : Type} {item : Reader α} {p : α → Prop}
    (hitem : ∀ s a r, item.read s = .ok (a, r) → p a) {first : Bool} {s r : List Char}
    {as : List α} (h : elements item first s = .ok (as, r)) : ∀ a ∈ as, p a := by
  fun_induction elements item first s generalizing as r with
  | case1 => cases h
  | case2 =>
    cases h
    intro a ha
    cases ha
  | case3 => cases h
  | case4 first s t ht a u hu as' v hv ih =>
    cases h
    rw [List.forall_mem_cons]
    exact ⟨hitem _ _ _ hu, ih hv⟩
  | case5 => cases h

/-- An invariant of every step holds at the end. -/
theorem members_invariant {σ : Type} {step : σ → String → Except Cause (Reader σ)}
    {p : σ → Prop} (hstep : ∀ state name member, p state → step state name = .ok member →
      ∀ s state' r, member.read s = .ok (state', r) → p state')
    {first : Bool} {state final : σ} {s r : List Char} (hp : p state)
    (h : members step first state s = .ok (final, r)) : p final := by
  fun_induction members step first state s with
  | case1 => cases h
  | case2 =>
    cases h
    exact hp
  | case3 => cases h
  | case4 => cases h
  | case5 => cases h
  | case6 => cases h
  | case7 first state s r₀ h₀ name r₁ hn member hs r₂ hc state' r₃ hm ih =>
    exact ih (hstep _ _ _ hp hs _ _ _ hm) h

end BrokerNode.Json
