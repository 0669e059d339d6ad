/-
BrokerNode/Proofs/Json/Written.lean

Objects as they are written.

A value that is an object has each name once, with the last value that was written for it; what else
stands in the text is gone.  The members as they are written, in their order and with every name that
comes again, are what `written?` finds.  Any loop over the members of an object that can be read as a
value is a fold over them (`members_of_written`): so is the one that puts the value together
(`exists_written`), and a name that is written once at most has in the value what is written for it
(`lookup_foldl_place`).
-/
import BrokerNode.Proofs.Narrowing

namespace BrokerNode.Json

/-! ### What a text is that is read as a value -/

/-- What a text starts with that was read as a value, and what it was read from. -/
inductive ReadAs (inner : Option (Reader Json)) (s r : List Char) : Json → Prop where
  | object {rd : Reader Json} {t : List Char} {ms : List (String × Json)} (hrd : inner = some rd)
    (hs : skipBlanks s = '{' :: t) (hms : members (addMember rd) true [] t = .ok (ms, r)) :
    ReadAs inner s r (.object ms)
  | list {rd : Reader Json} {t : List Char} {xs : List Json} (hrd : inner = some rd)
    (hs : skipBlanks s = '[' :: t) (hxs : elements rd true t = .ok (xs, r)) :
    ReadAs inner s r (.list xs)
  | scalar {v : Json} {c : Char} {t : List Char} (hs : skipBlanks s = c :: t) (hobject : c ≠ '{')
    (hlist : c ≠ '[') (hv : ∀ ms, v ≠ .object ms) (hv' : ∀ xs, v ≠ .list xs) : ReadAs inner s r v

theorem readAs_of_read {inner : Option (Reader Json)} {s r : List Char} {v : Json}
    (h : readValue inner s = .ok (v, r)) : ReadAs inner s r v := by
  unfold readValue at h
  split at h
  · cases h
  · next c t ht =>
    split at h
    · next hc =>
      subst hc
      split at h
      · cases h
      · next rd =>
        split at h
        · next xs u hu =>
          cases h
          exact .list rfl ht hu
        · cases h
    next hlist =>
    split at h
    · next hc =>
      subst hc
      split at h
      · cases h
      · next rd =>
        split at h
        · next ms u hu =>
          cases h
          exact .object rfl ht hu
        · cases h
    next hobject =>
    -- a text, one of the three words, or a number
    refine .scalar ht hobject hlist ?_ ?_ <;>
    · rintro x rfl
      split at h
      · split at h <;> cases h
      split at h
      · cases value_of_map_word h
      split at h
      · cases value_of_map_word h
      split at h
      · cases value_of_map_word h
      split at h
      · split at h <;> cases h
      · cases h

/-- A document that is read as a value up to blanks at its end. -/
theorem readAs_of_parse {text : String} {v : Json} (h : parse text = .ok v) :
    ∃ r, ReadAs (some (value (maxNesting - 1))) text.toList r v ∧ skipBlanks r = [] := by
  rw [parse, document] at h
  split at h
  · cases h
  · next w r hr =>
    split at h
    · next hblank =>
      cases h
      exact ⟨r, readAs_of_read hr, hblank⟩
    · cases h

/-! ### Values in fields -/

/-- A value as a field holds it: `null` counts as nothing. -/
def filling : Json → Option Json
  | .null => none
  | v => some v

theorem filling_eq {v : Json} (hv : v ≠ .null) : v.filling = some v := by
  rw [filling]
  exact hv

/-- A field that may be absent is read where a value is. -/
theorem optional_of_read {nesting : Nat} {s r : List Char} {v : Json}
    (h : (value nesting).read s = .ok (v, r)) :
    (optional (value nesting)).read s = .ok (v.filling, r) := by
  simp only [optional]
  split
  · next t ht =>
    -- nothing but `null` starts with an n
    rw [value_read, readValue, ht] at h
    have hword : (word ['u', 'l', 'l'] t).map (fun u => (Json.null, u)) = .ok (v, r) := h
    rw [ok_of_map_word hword, value_of_map_word hword]
    rfl
  · next hn =>
    have hnull : v ≠ .null := by
      rintro rfl
      rw [value_read] at h
      obtain ⟨t, ht⟩ := null_of_read h
      exact hn t ht
    exact Reader.read_map.mpr ⟨v, h, (filling_eq hnull).symm⟩

/-! ### Looking names up -/

theorem lookup_eq_none_iff_notMem {α : Type} {given : Fields α} {name : String} :
    given.lookup name = none ↔ name ∉ given.map Prod.fst := by
  rw [List.lookup_eq_none_iff]
  simp only [List.mem_map, not_exists, not_and, bne_iff_ne, ne_eq]
  exact forall₂_congr fun m _ => not_congr eq_comm

theorem lookup_map_snd {α γ : Type} (f : α → γ) (given : Fields α) (name : String) :
    (given.map fun m => (m.1, f m.2)).lookup name = (given.lookup name).map f := by
  induction given with
  | nil => rfl
  | cons m given ih =>
    rw [List.map_cons, List.lookup_cons, List.lookup_cons, ih]
    cases name == m.1 <;> rfl

theorem lookup_zip {α : Type} {names : List String} (hnodup : names.Nodup) (ys : List α) {i : Nat}
    {name : String} (hi : names[i]? = some name) : (names.zip ys).lookup name = ys[i]? := by
  induction names generalizing ys i with
  | nil => simp at hi
  | cons k names ih =>
    obtain ⟨hk, hnodup⟩ := List.nodup_cons.mp hnodup
    cases ys with
    | nil => rfl
    | cons y ys =>
      rw [List.zip_cons_cons, List.lookup_cons]
      cases i with
      | zero =>
        obtain rfl : k = name := by simpa using hi
        rw [beq_self_eq_true]
        rfl
      | succ i =>
        have hmem : names[i]? = some name := by simpa using hi
        -- the name stands further on, and not here as well
        have hne : name ≠ k := by
          rintro rfl
          exact hk (List.mem_of_getElem? hmem)
        rw [beq_false_of_ne hne]
        exact ih hnodup ys hmem

/-! ### Members as they are written -/

/-- Keeps a member, also when its name came before. -/
def keepMember {α : Type} (rd : Reader α) (written : Fields α) (name : String) :
    Except Cause (Reader (Fields α)) :=
  .ok (rd.map fun a => written ++ [(name, a)])

/-- The members of the object in a document as they are written: in their order, and with a name as
often as it stands there. -/
def written? (text : List Char) : Option (Fields Json) :=
  match skipBlanks text with
  | '{' :: r => (members (keepMember (value (maxNesting - 1))) true [] r).toOption.map Prod.fst
  | _ => none

/-- The members of an object after one more is put into its place. -/
def place (ms : List (String × Json)) (m : String × Json) : List (String × Json) :=
  insert m.1 m.2 ms

section Written

variable {σ α : Type} {rd : Reader α} {step : σ → String → Except Cause (Reader σ)}

/-- One round of the loop over members, whether or not the name is accepted. -/
theorem toOption_members_round {first : Bool} {state : σ} {name : String} {s t u v : List Char}
    (hmark : nextMember first s = .ok (true, t))
    (hname : StringLiteral.rest.read t = .ok (name, u)) (hcolon : colon u = .ok v) :
    (members step first state s).toOption =
      ((step state name).toOption.bind fun member => (member.read v).toOption).bind fun p =>
        (members step false p.1 p.2).toOption := by
  cases hs : step state name with
  | ok member =>
    rw [members_round hmark hname hs hcolon]
    show _ = (member.read v).toOption.bind _
    cases member.read v <;> rfl
  | error c =>
    -- the loop ends at a name that is refused
    show _ = none
    rw [members]
    split
    · rfl
    · next t' ht =>
      rw [hmark] at ht
      cases ht
    · next t' ht =>
      rw [hmark] at ht
      cases ht
      split
      · rfl
      · next k r hk =>
        rw [hname] at hk
        cases hk
        split
        · rfl
        · next m hm =>
          rw [hs] at hm
          cases hm

/-- The loop over members as a fold over the members as they are written, `f` being what one step makes
of a member that can be read. -/
theorem members_of_written {f : σ → String × α → Option σ}
    (hstep : ∀ b name s a r, rd.read s = .ok (a, r) →
      ((step b name).toOption.bind fun member => (member.read s).toOption) =
        (f b (name, a)).map fun b' => (b', r))
    {first : Bool} {done final : Fields α} {s r : List Char}
    (h : members (keepMember rd) first done s = .ok (final, r)) :
    ∃ written, final = done ++ written ∧
      ∀ b, (members step first b s).toOption = (written.foldlM f b).map fun b' => (b', r) := by
  fun_induction members (keepMember rd) first done s with
  | case1 => cases h
  | case2 first done s t ht =>
    cases h
    refine ⟨[], (List.append_nil _).symm, fun b => ?_⟩
    rw [members_of_end ht b]
    rfl
  | case3 => cases h
  | case4 => cases h
  | case5 => cases h
  | case6 => cases h
  | case7 first done s r₀ h₀ name r₁ hn member hs r₂ hc done' r₃ hm ih =>
    cases hs
    obtain ⟨a, ha, rfl⟩ := Reader.read_map.mp hm
    obtain ⟨written, hfinal, hall⟩ := ih h
    refine ⟨(name, a) :: written, ?_, fun b => ?_⟩
    · rw [hfinal, List.append_assoc]
      rfl
    · rw [toOption_members_round h₀ hn hc, hstep b name r₂ a r₃ ha, List.foldlM_cons]
      cases f b (name, a) with
      | none => rfl
      | some b' => exact hall b'

end Written

/-- An object that is read as a value holds the members as they are written, the last of each name. -/
theorem exists_written {rd : Reader Json} {s r : List Char} {ms : List (String × Json)}
    (h : members (addMember rd) true [] s = .ok (ms, r)) :
    ∃ written, members (keepMember rd) true [] s = .ok (written, r) ∧ written.foldl place [] = ms := by
  have hkeep : ∀ (a : List (String × Json)) (b : Fields Json) name member, True →
      addMember rd a name = .ok member →
      ∃ member', keepMember rd b name = .ok member' ∧ ∀ s a' r, member.read s = .ok (a', r) →
        ∃ b', member'.read s = .ok (b', r) ∧ True := by
    intro a b name member _ hm
    cases hm
    refine ⟨_, rfl, fun s a' r hr => ?_⟩
    obtain ⟨x, hx, -⟩ := Reader.read_map.mp hr
    exact ⟨_, Reader.read_map.mpr ⟨x, hx, rfl⟩, trivial⟩
  obtain ⟨written, hwritten, -⟩ := members_simulated (b := []) hkeep trivial h
  refine ⟨written, hwritten, ?_⟩
  have hplace : ∀ (b : List (String × Json)) name s x r, rd.read s = .ok (x, r) →
      ((addMember rd b name).toOption.bind fun member => (member.read s).toOption) =
        (some (place b (name, x))).map fun b' => (b', r) := by
    intro b name s x r hx
    show ((rd.map fun value => insert name value b).read s).toOption = _
    rw [toOption_read_map, hx]
    rfl
  obtain ⟨written', hfinal, hall⟩ :=
    members_of_written (f := fun b m => some (place b m)) hplace hwritten
  obtain rfl : written = written' := hfinal
  have hms := hall []
  rw [h] at hms
  have hfold : written.foldlM (fun b m => some (place b m)) [] = some (written.foldl place []) :=
    List.foldlM_pure
  rw [hfold] at hms
  cases hms
  rfl

theorem lookup_insert (name k : String) (v : Json) (ms : List (String × Json)) :
    (insert k v ms).lookup name = if name = k then some v else ms.lookup name := by
  induction ms with
  | nil => grind [insert]
  | cons m ms ih =>
    obtain ⟨l, w⟩ := m
    rw [insert]
    split
    · grind
    · split <;> grind

/-- A name that is written once at most is found among the members where it is written. -/
theorem lookup_foldl_place {written : Fields Json} {name : String}
    (h : (written.map Prod.fst).count name ≤ 1) (ms : List (String × Json)) :
    (written.foldl place ms).lookup name = (written.lookup name).or (ms.lookup name) := by
  induction written generalizing ms with
  | nil => rfl
  | cons m written ih =>
    obtain ⟨k, v⟩ := m
    rw [List.map_cons, List.count_cons] at h
    rw [List.foldl_cons, ih (by omega), place, lookup_insert, List.lookup_cons]
    by_cases hk : name = k
    · -- it is not written again
      subst hk
      have hnone : written.lookup name = none := by
        rw [lookup_eq_none_iff_notMem, ← List.count_eq_zero]
        simpa using h
      rw [hnone, if_pos rfl, beq_self_eq_true]
      rfl
    · rw [if_neg hk, beq_false_of_ne hk]

end BrokerNode.Json
