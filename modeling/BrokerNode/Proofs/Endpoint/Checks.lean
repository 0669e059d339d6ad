/-
BrokerNode/Proofs/Endpoint/Checks.lean

The checks that decide whether a payload describes an endpoint.

What a check asks of its field is said here without the functions that carry it out: which values name
a kind, hold a text, are unset, or give a number.  The four checks stand in a list, each with the reason
that it gives (`checks`), and `FirstFailing` picks the reason of the first that fails.  `Describes` says
what an endpoint owes to its payload.

Each function of the validation gets one lemma for the case that its check passes and one for the case
that it fails.  They are put together in `checks_decide`.
-/
import BrokerNode.Endpoint.Validation
import BrokerNode.Proofs.Json.NumberText
import BrokerNode.Proofs.Text.Trim
import Mathlib.Algebra.Group.Nat.Defs

namespace BrokerNode

namespace Kind

theorem ofName?_eq_some_iff {name : String} {k : Kind} : ofName? name = some k ↔ name = k.name := by
  constructor
  · intro h
    unfold ofName? at h
    split at h
    · next hname =>
      cases h
      exact hname
    split at h
    · next hname =>
      cases h
      exact hname
    split at h
    · next hname =>
      cases h
      exact hname
    · cases h
  · rintro rfl
    exact ofName?_name k

end Kind

namespace Endpoint

/-! ### What a field may be -/

/-- A field names a kind: it is the name of the kind, blanks around it and the case of ASCII letters
aside. -/
def NamesKind (v : Option Json) (k : Kind) : Prop :=
  ∃ s, v = some (.string s) ∧ Kind.spelling s = k.name

/-- A field holds a text that is not blank. -/
def HoldsText (v : Option Json) : Prop :=
  ∃ s, v = some (.string s) ∧ ∃ c ∈ s.toList, Text.isBlank c = false

/-- A field is absent or blank. -/
def Unset (v : Option Json) : Prop :=
  v = none ∨ ∃ s, v = some (.string s) ∧ ∀ c ∈ s.toList, Text.isBlank c = true

/-- A text is a decimal numeral of a number: digits, of which the first may be zeros, with or without a
plus sign. -/
def IsNumeralOf (s : List Char) (n : Nat) : Prop :=
  ∃ ds, (s = ds ∨ s = '+' :: ds) ∧ ds ≠ [] ∧ (∀ c ∈ ds, c.isDigit = true) ∧
    Nat.ofDigitChars 10 ds 0 = n

/-- A field gives a number: as a whole number, or as a string with its numeral, blanks around it
aside. -/
def GivesNumber (v : Option Json) (n : Nat) : Prop :=
  (∃ bounds, v = some (.number (.whole n bounds))) ∨
    ∃ s, v = some (.string s) ∧ IsNumeralOf (Text.trim s.toList) n

/-! ### The checks -/

/-- A check with the reason that it gives when it fails. -/
structure Check where
  passes : Prop
  refusal : Refusal

/-- What is asked of the database; it depends on the kind. -/
structure DbAllowed (k : Kind) (v : Option Json) : Prop where
  amqp : k = .amqp → v = none ∨ (∃ s, v = some (.string s)) ∨ ∃ n, v = some (.number n)
  redis : k = .redis → Unset v ∨ ∃ n, GivesNumber v n ∧ n < 2 ^ 32

/-- The checks on a payload, in their order. -/
def checks (p : Payload) : List Check := [
  ⟨∃ k, NamesKind p.brokerType k, .unknownKind (kindText p.brokerType)⟩,
  ⟨HoldsText p.host, .missingHost⟩,
  ⟨Unset p.port ∨ ∃ n, GivesNumber p.port n ∧ 1 ≤ n ∧ n ≤ 65535, .invalidPort (fieldText p.port)⟩,
  ⟨∀ k, NamesKind p.brokerType k → DbAllowed k p.db, .invalidDb (fieldText p.db)⟩]

/-- The first check of a list that fails gives this reason. -/
inductive FirstFailing : List Check → Refusal → Prop where
  | here {c : Check} {cs : List Check} : ¬c.passes → FirstFailing (c :: cs) c.refusal
  | later {c : Check} {cs : List Check} {r : Refusal} :
    c.passes → FirstFailing cs r → FirstFailing (c :: cs) r

theorem all_pass_or_firstFailing (cs : List Check) :
    (∀ c ∈ cs, c.passes) ∨ ∃ r, FirstFailing cs r := by
  induction cs with
  | nil => exact Or.inl (by simp)
  | cons c cs ih =>
    by_cases hc : c.passes
    · rcases ih with hall | ⟨r, hr⟩
      · exact Or.inl (List.forall_mem_cons.mpr ⟨hc, hall⟩)
      · exact Or.inr ⟨r, .later hc hr⟩
    · exact Or.inr ⟨_, .here hc⟩

/-- A virtual host is the root, the text of a field or the text of its number. -/
structure VhostFrom (v : Option Json) (vhost : String) : Prop where
  ne_empty : vhost ≠ ""
  root : v = none ∨ v = some (.string "") → vhost = "/"
  text : ∀ t, v = some (.string t) → t ≠ "" → vhost = t
  number : ∀ n, v = some (.number n) → vhost = String.ofList n.write

/-- An exchange is the text of a field, or empty. -/
structure ExchangeFrom (v : Option Json) (exchange : String) : Prop where
  text : ∀ t, v = some (.string t) → exchange = t
  empty : (∀ t, v ≠ some (.string t)) → exchange = ""

/-- A database of Redis is the first one, or the one that a field gives. -/
structure DbFrom (v : Option Json) (db : UInt32) : Prop where
  lt : db.toNat < 2 ^ 32
  unset : Unset v → db = 0
  given : ¬Unset v → GivesNumber v db.toNat

/-- What an endpoint of a kind owes to its payload. -/
structure Describes (p : Payload) (k : Kind) (e : Endpoint) : Prop where
  kind : e.kind = k
  host : ∃ s, p.host = some (.string s) ∧ e.server.host = String.ofList (Text.trim s.toList)
  host_ne_empty : e.server.host ≠ ""
  port_pos : 1 ≤ e.server.port.toNat
  port_le : e.server.port.toNat ≤ 65535
  port_default : Unset p.port → e.server.port = k.defaultPort
  port_given : ¬Unset p.port → GivesNumber p.port e.server.port.toNat
  credentials : ∀ c, e.server.credentials = some c ↔
    p.username = some (.string c.username) ∧ c.username ≠ "" ∧
      p.password = some (.string c.password) ∧ c.password ≠ ""
  amqp : ∀ s vhost exchange, e = .amqp s vhost exchange →
    VhostFrom p.db vhost ∧ ExchangeFrom p.exchange exchange
  redis : ∀ s db, e = .redis s db → DbFrom p.db db

/-! ### Numbers in fields -/

theorem isNumeralOf_iff {s : List Char} {n : Nat} :
    IsNumeralOf s n ↔ Text.Numeral.isNumeral s = true ∧
      Nat.ofDigitChars 10 (Text.Numeral.digits s) 0 = n := by
  have hnumeral : Text.Numeral.isNumeral s = true ↔ Text.Numeral.digits s ≠ [] ∧
      ∀ c ∈ Text.Numeral.digits s, c.isDigit = true := by
    simp [Text.Numeral.isNumeral]
  rw [hnumeral]
  constructor
  · rintro ⟨ds, hs, hne, hall, hvalue⟩
    have hdigits : Text.Numeral.digits s = ds := by
      rcases hs with rfl | rfl
      · -- no digit is a plus sign
        unfold Text.Numeral.digits
        split
        · exact absurd (hall '+' (by simp)) (by decide)
        · rfl
      · rfl
    rw [hdigits]
    exact ⟨⟨hne, hall⟩, hvalue⟩
  · rintro ⟨⟨hne, hall⟩, hvalue⟩
    refine ⟨_, ?_, hne, hall, hvalue⟩
    unfold Text.Numeral.digits
    split
    · exact Or.inr rfl
    · exact Or.inl rfl

/-- No character of a numeral is blank. -/
theorem IsNumeralOf.not_isBlank {s : List Char} {n : Nat} (h : IsNumeralOf s n) :
    ∀ c ∈ s, Text.isBlank c = false := by
  have hdigit : ∀ c : Char, c.isDigit = true → Text.isBlank c = false := by
    intro c hc
    simp only [Char.isDigit, Bool.and_eq_true, decide_eq_true_eq, ge_iff_le, UInt32.le_iff_toNat_le]
      at hc
    have hlow : 48 ≤ c.toNat := hc.1
    have hhigh : c.toNat ≤ 57 := hc.2
    apply Text.isBlank_of_visible <;> omega
  obtain ⟨ds, rfl | rfl, -, hall, -⟩ := h
  · exact fun c hc => hdigit c (hall c hc)
  · intro c hc
    rcases List.mem_cons.mp hc with rfl | hc
    · decide
    · exact hdigit c (hall c hc)

/-- A number is read from a field exactly when the field gives it and it is within the bound. -/
theorem number?_eq_some_iff {bound n : Nat} {v : Option Json} :
    v.bind (number? bound) = some n ↔ GivesNumber v n ∧ n ≤ bound := by
  constructor
  · intro h
    obtain ⟨x, rfl, hx⟩ := Option.bind_eq_some_iff.mp h
    unfold number? at hx
    split at hx
    · -- a string with a numeral
      next s =>
      obtain ⟨hnumeral, hvalue, hle⟩ := Text.Numeral.value?_eq_some_iff.mp hx
      exact ⟨Or.inr ⟨s, rfl, isNumeralOf_iff.mpr ⟨hnumeral, hvalue⟩⟩, hle⟩
    · -- a whole number
      next m bounds =>
      split at hx
      · next hm =>
        obtain ⟨k, rfl⟩ := Int.eq_ofNat_of_zero_le hm.1
        cases hx
        exact ⟨Or.inl ⟨bounds, rfl⟩, Int.ofNat_le.mp hm.2⟩
      · cases hx
    · cases hx
  · rintro ⟨⟨bounds, rfl⟩ | ⟨s, rfl, hs⟩, hle⟩
    · have hrange : (0 : Int) ≤ n ∧ (n : Int) ≤ bound := by omega
      rw [Option.bind_some, number?, if_pos hrange]
      rfl
    · obtain ⟨hnumeral, hvalue⟩ := isNumeralOf_iff.mp hs
      exact Text.Numeral.value?_eq_some_iff.mpr ⟨hnumeral, hvalue, hle⟩

theorem isUnset_iff {v : Option Json} : isUnset v = true ↔ Unset v := by
  constructor
  · intro h
    unfold isUnset at h
    split at h
    · exact Or.inl rfl
    · next s =>
      rw [List.isEmpty_iff] at h
      exact Or.inr ⟨s, rfl, Text.trim_eq_nil_iff.mp h⟩
    · cases h
  · rintro (rfl | ⟨s, rfl, hs⟩)
    · rfl
    · rw [isUnset, List.isEmpty_iff]
      exact Text.trim_eq_nil_iff.mpr hs

/-- A field with the numeral of a number gives the number. -/
theorem givesNumber_of_isNumeralOf {s : String} {n : Nat} (h : IsNumeralOf s.toList n) :
    GivesNumber (some (.string s)) n := by
  refine Or.inr ⟨s, rfl, ?_⟩
  rwa [Text.trim_eq_self h.not_isBlank]

section GivesNumber

variable {v : Option Json} {m n : Nat}

/-- A field gives at most one number. -/
theorem GivesNumber.unique (hm : GivesNumber v m) (hn : GivesNumber v n) : m = n := by
  have hm' := number?_eq_some_iff.mpr ⟨hm, Nat.le_max_left m n⟩
  have hn' := number?_eq_some_iff.mpr ⟨hn, Nat.le_max_right m n⟩
  exact Option.some.inj (hm'.symm.trans hn')

theorem GivesNumber.not_unset (h : GivesNumber v n) : ¬Unset v := by
  rintro (rfl | ⟨s, rfl, hblank⟩)
  · rcases h with ⟨bounds, hv⟩ | ⟨s, hv, -⟩ <;> cases hv
  · rcases h with ⟨bounds, hv⟩ | ⟨t, ht, hnumeral⟩
    · cases hv
    · -- a numeral has digits
      cases ht
      rw [Text.trim_eq_nil_iff.mpr hblank] at hnumeral
      obtain ⟨hsome, -⟩ := isNumeralOf_iff.mp hnumeral
      cases hsome

end GivesNumber

/-! ### Kind and host -/

theorem kind?_eq_some_iff {p : Payload} {k : Kind} :
    p.kind? = some k ↔ NamesKind p.brokerType k := by
  constructor
  · intro h
    obtain ⟨v, hv, h⟩ := Option.bind_eq_some_iff.mp h
    obtain ⟨s, hs, h⟩ := Option.bind_eq_some_iff.mp h
    have hstring : v = .string s := by
      cases v <;> first | cases hs; rfl | cases hs
    subst hstring
    refine ⟨s, hv, Kind.ofName?_eq_some_iff.mp ?_⟩
    have h : (Kind.parse s).toOption = some k := h
    rw [Kind.parse] at h
    cases hk : Kind.ofName? (Kind.spelling s) with
    | none =>
      rw [hk] at h
      cases h
    | some k' =>
      rw [hk] at h
      exact h
  · rintro ⟨s, hv, hs⟩
    rw [Payload.kind?, hv, Option.bind_some]
    show (Kind.parse s).toOption = some k
    rw [Kind.parse, Kind.ofName?_eq_some_iff.mpr hs]
    rfl

/-- A field names at most one kind. -/
theorem NamesKind.unique {v : Option Json} {k l : Kind} (hk : NamesKind v k)
    (hl : NamesKind v l) : k = l := by
  have hk := kind?_eq_some_iff (p := { brokerType := v }).mpr hk
  have hl := kind?_eq_some_iff (p := { brokerType := v }).mpr hl
  rw [hk] at hl
  cases hl
  rfl

theorem kindOf_of_namesKind {p : Payload} {k : Kind} (h : NamesKind p.brokerType k) :
    kindOf p = .ok k := by
  rw [kindOf, kind?_eq_some_iff.mpr h]

theorem kindOf_unknown {p : Payload} (h : ¬∃ k, NamesKind p.brokerType k) :
    kindOf p = .error (.unknownKind (kindText p.brokerType)) := by
  cases hk : p.kind? with
  | none => rw [kindOf, hk]
  | some k => exact absurd ⟨k, kind?_eq_some_iff.mp hk⟩ h

theorem hostOf_of_holdsText {v : Option Json} (h : HoldsText v) :
    ∃ s, v = some (.string s) ∧ Text.trim s.toList ≠ [] ∧
      hostOf v = .ok (String.ofList (Text.trim s.toList)) := by
  obtain ⟨s, rfl, c, hc, hblank⟩ := h
  have hne : Text.trim s.toList ≠ [] := by
    intro hnil
    rw [Text.trim_eq_nil_iff.mp hnil c hc] at hblank
    cases hblank
  refine ⟨s, rfl, hne, ?_⟩
  have hempty : ¬(trimmed s).isEmpty = true := by
    rw [List.isEmpty_iff]
    exact hne
  rw [hostOf, if_neg hempty]
  rfl

theorem hostOf_missing {v : Option Json} (h : ¬HoldsText v) : hostOf v = .error .missingHost := by
  unfold hostOf
  split
  · next s =>
    split
    · rfl
    · next hne =>
      refine absurd ⟨s, rfl, ?_⟩ h
      by_contra hall
      refine hne (List.isEmpty_iff.mpr (Text.trim_eq_nil_iff.mpr ?_))
      intro c hc
      by_contra hblank
      exact hall ⟨c, hc, by simpa using hblank⟩
  · rfl

/-! ### Port and database -/

/-- A port that passes is none, or the number that the field gives. -/
theorem portOf_of_passes {v : Option Json}
    (h : Unset v ∨ ∃ n, GivesNumber v n ∧ 1 ≤ n ∧ n ≤ 65535) :
    (Unset v ∧ portOf v = .ok none) ∨
      ¬Unset v ∧ ∃ port : UInt16, GivesNumber v port.toNat ∧ 1 ≤ port.toNat ∧
        portOf v = .ok (some port) := by
  by_cases hunset : Unset v
  · left
    rw [portOf, if_pos (isUnset_iff.mpr hunset)]
    exact ⟨hunset, rfl⟩
  · right
    obtain ⟨n, hn, hpos, hle⟩ := h.resolve_left hunset
    -- the number fits into 16 bits, so nothing is cut off
    have hport : n.toUInt16.toNat = n := by
      rw [Nat.toUInt16_eq, UInt16.toNat_ofNat']
      omega
    refine ⟨hunset, n.toUInt16, ?_, ?_, ?_⟩
    · rw [hport]
      exact hn
    · rw [hport]
      exact hpos
    · rw [portOf, if_neg fun hu => hunset (isUnset_iff.mp hu), number?_eq_some_iff.mpr ⟨hn, hle⟩]
      exact if_pos hpos

theorem portOf_invalid {v : Option Json}
    (h : ¬(Unset v ∨ ∃ n, GivesNumber v n ∧ 1 ≤ n ∧ n ≤ 65535)) :
    portOf v = .error (.invalidPort (fieldText v)) := by
  have hunset : ¬isUnset v = true := fun hu => h (Or.inl (isUnset_iff.mp hu))
  rw [portOf, if_neg hunset]
  split
  · next n hn =>
    obtain ⟨hgives, hle⟩ := number?_eq_some_iff.mp hn
    exact if_neg fun hpos => h (Or.inr ⟨n, hgives, hpos, hle⟩)
  · rfl

theorem dbOf_of_passes {v : Option Json} (h : Unset v ∨ ∃ n, GivesNumber v n ∧ n < 2 ^ 32) :
    ∃ db, dbOf v = .ok db ∧ DbFrom v db := by
  by_cases hunset : Unset v
  · refine ⟨0, ?_, by decide, fun _ => rfl, fun hu => absurd hunset hu⟩
    rw [dbOf, if_pos (isUnset_iff.mpr hunset)]
  · obtain ⟨n, hn, hlt⟩ := h.resolve_left hunset
    have hle : n ≤ 4294967295 := by omega
    have hdb : n.toUInt32.toNat = n := by
      rw [Nat.toUInt32_eq, UInt32.toNat_ofNat']
      omega
    refine ⟨n.toUInt32, ?_, n.toUInt32.toNat_lt, fun hu => absurd hu hunset, fun _ => by rwa [hdb]⟩
    rw [dbOf, if_neg fun hu => hunset (isUnset_iff.mp hu), number?_eq_some_iff.mpr ⟨hn, hle⟩]

theorem dbOf_invalid {v : Option Json} (h : ¬(Unset v ∨ ∃ n, GivesNumber v n ∧ n < 2 ^ 32)) :
    dbOf v = .error (.invalidDb (fieldText v)) := by
  have hunset : ¬isUnset v = true := fun hu => h (Or.inl (isUnset_iff.mp hu))
  rw [dbOf, if_neg hunset]
  split
  · next n hn =>
    obtain ⟨hgives, hle⟩ := number?_eq_some_iff.mp hn
    exact absurd (Or.inr ⟨n, hgives, by omega⟩) h
  · rfl

theorem portOf_of_givesNumber {v : Option Json} {port : UInt16} (h : GivesNumber v port.toNat)
    (hpos : 1 ≤ port.toNat) : portOf v = .ok (some port) := by
  have hle : port.toNat ≤ 65535 := Nat.le_of_lt_succ port.toNat_lt
  rcases portOf_of_passes (Or.inr ⟨_, h, hpos, hle⟩) with ⟨hunset, -⟩ | ⟨-, port', hport', -, hok⟩
  · exact absurd hunset h.not_unset
  · rwa [UInt16.toNat_inj.mp (hport'.unique h)] at hok

theorem dbOf_of_givesNumber {v : Option Json} {db : UInt32} (h : GivesNumber v db.toNat) :
    dbOf v = .ok db := by
  obtain ⟨db', hok, hfrom⟩ := dbOf_of_passes (Or.inr ⟨_, h, db.toNat_lt⟩)
  have hgiven := hfrom.given h.not_unset
  rwa [UInt32.toNat_inj.mp (hgiven.unique h)] at hok

theorem vhostOf_of_passes {v : Option Json}
    (h : v = none ∨ (∃ s, v = some (.string s)) ∨ ∃ n, v = some (.number n)) :
    ∃ vhost, vhostOf v = .ok vhost ∧ VhostFrom v vhost := by
  rcases h with rfl | ⟨s, rfl⟩ | ⟨n, rfl⟩
  · -- absent
    exact ⟨"/", rfl, by decide, fun _ => rfl, by simp, by simp⟩
  · by_cases hs : s = ""
    · subst hs
      exact ⟨"/", rfl, by decide, fun _ => rfl, by simp, by simp⟩
    · have hempty : ¬s.isEmpty = true := by simpa using hs
      refine ⟨s, ?_, hs, ?_, ?_, by simp⟩
      · rw [vhostOf, if_neg hempty]
      · rintro (h | h)
        · cases h
        · cases h
          exact absurd rfl hs
      · rintro t ht -
        cases ht
        rfl
  · refine ⟨String.ofList n.write, by rw [vhostOf, Json.render, Json.write], ?_, by simp, by simp, ?_⟩
    · -- the text of a number is never empty
      obtain ⟨c, cs, heq, -⟩ := n.exists_cons_write
      rw [heq]
      simp
    · rintro m hm
      cases hm
      rfl

theorem vhostOf_invalid {v : Option Json}
    (h : ¬(v = none ∨ (∃ s, v = some (.string s)) ∨ ∃ n, v = some (.number n))) :
    vhostOf v = .error (.invalidDb (fieldText v)) := by
  unfold vhostOf
  split
  · exact absurd (Or.inl rfl) h
  · exact absurd (Or.inr (Or.inl ⟨_, rfl⟩)) h
  · exact absurd (Or.inr (Or.inr ⟨_, rfl⟩)) h
  · rfl

/-! ### Texts that are taken as they are -/

theorem textOf_eq_iff {v : Option Json} {t : String} (ht : t ≠ "") :
    textOf v = t ↔ v = some (.string t) := by
  unfold textOf
  cases v with
  | none => simpa using Ne.symm ht
  | some x => cases x <;> simp [Json.string?, Ne.symm ht]

theorem exchangeFrom_textOf (v : Option Json) : ExchangeFrom v (textOf v) where
  text t ht := by
    rw [ht]
    rfl
  empty h := by
    by_contra hne
    exact h _ ((textOf_eq_iff hne).mp rfl)

theorem credentials_eq_some_iff {u v : Option Json} {c : Credentials} :
    Credentials.ofParts (textOf u) (textOf v) = some c ↔
      u = some (.string c.username) ∧ c.username ≠ "" ∧
        v = some (.string c.password) ∧ c.password ≠ "" := by
  obtain ⟨username, password⟩ := c
  have hparts : Credentials.ofParts (textOf u) (textOf v) = some ⟨username, password⟩ ↔
      (textOf u = username ∧ username ≠ "") ∧ textOf v = password ∧ password ≠ "" := by
    unfold Credentials.ofParts
    split
    · next hempty =>
      rw [Bool.or_eq_true, String.isEmpty_iff, String.isEmpty_iff] at hempty
      simp only [reduceCtorEq, false_iff]
      rintro ⟨⟨rfl, hu⟩, rfl, hv⟩
      exact hempty.elim hu hv
    · next hempty =>
      rw [Bool.or_eq_true, String.isEmpty_iff, String.isEmpty_iff, not_or] at hempty
      simp only [Option.some.injEq, Credentials.mk.injEq]
      constructor
      · rintro ⟨rfl, rfl⟩
        exact ⟨⟨rfl, hempty.1⟩, rfl, hempty.2⟩
      · rintro ⟨⟨hu, -⟩, hv, -⟩
        exact ⟨hu, hv⟩
  -- a text that is not empty can only come from a string
  rw [hparts]
  constructor
  · rintro ⟨⟨hu, hne⟩, hv, hne'⟩
    exact ⟨(textOf_eq_iff hne).mp hu, hne, (textOf_eq_iff hne').mp hv, hne'⟩
  · rintro ⟨hu, hne, hv, hne'⟩
    exact ⟨⟨(textOf_eq_iff hne).mpr hu, hne⟩, (textOf_eq_iff hne').mpr hv, hne'⟩

/-! ### The whole validation -/

section Validation

variable {p : Payload} {k : Kind} {host : String} {port : Option UInt16}

/-- The server that a payload describes once its host and port have been found. -/
def serverOf (p : Payload) (k : Kind) (host : String) (port : Option UInt16) : Server :=
  ⟨host, port.getD k.defaultPort, Credentials.ofParts (textOf p.username) (textOf p.password)⟩

theorem ofPayload_unknown (h : ¬∃ k, NamesKind p.brokerType k) :
    ofPayload p = .error (.unknownKind (kindText p.brokerType)) := by
  rw [ofPayload, kindOf_unknown h]
  rfl

theorem ofPayload_host {r : Refusal} (hk : kindOf p = .ok k) (hh : hostOf p.host = .error r) :
    ofPayload p = .error r := by
  rw [ofPayload, hk, hh]
  rfl

theorem ofPayload_port {r : Refusal} (hk : kindOf p = .ok k) (hh : hostOf p.host = .ok host)
    (hp : portOf p.port = .error r) : ofPayload p = .error r := by
  rw [ofPayload, hk, hh, hp]
  rfl

theorem ofPayload_mqtt (hk : kindOf p = .ok .mqtt) (hh : hostOf p.host = .ok host)
    (hp : portOf p.port = .ok port) : ofPayload p = .ok (.mqtt (serverOf p .mqtt host port)) := by
  rw [ofPayload, hk, hh, hp]
  rfl

theorem ofPayload_amqp (hk : kindOf p = .ok .amqp) (hh : hostOf p.host = .ok host)
    (hp : portOf p.port = .ok port) : ofPayload p =
      (vhostOf p.db).map fun vhost => .amqp (serverOf p .amqp host port) vhost (textOf p.exchange) := by
  rw [ofPayload, hk, hh, hp]
  cases vhostOf p.db <;> rfl

theorem ofPayload_redis (hk : kindOf p = .ok .redis) (hh : hostOf p.host = .ok host)
    (hp : portOf p.port = .ok port) :
    ofPayload p = (dbOf p.db).map fun db => .redis (serverOf p .redis host port) db := by
  rw [ofPayload, hk, hh, hp]
  cases dbOf p.db <;> rfl

/-- The server that is built owes to the payload what an endpoint does. -/
theorem describes_of_server {e : Endpoint} (hk : e.kind = k) (hs : e.server = serverOf p k host port)
    (hhost : ∃ s, p.host = some (.string s) ∧ Text.trim s.toList ≠ [] ∧
      host = String.ofList (Text.trim s.toList))
    (hport : (Unset p.port ∧ port = none) ∨
      ¬Unset p.port ∧ ∃ n : UInt16, GivesNumber p.port n.toNat ∧ 1 ≤ n.toNat ∧ port = some n)
    (hamqp : ∀ s vhost exchange, e = .amqp s vhost exchange →
      VhostFrom p.db vhost ∧ ExchangeFrom p.exchange exchange)
    (hredis : ∀ s db, e = .redis s db → DbFrom p.db db) : Describes p k e := by
  obtain ⟨s, hps, hne, rfl⟩ := hhost
  have hle : e.server.port.toNat ≤ 65535 := Nat.le_of_lt_succ e.server.port.toNat_lt
  refine ⟨hk, ⟨s, hps, by rw [hs]; rfl⟩, ?_, ?_, hle, ?_, ?_, ?_, hamqp, hredis⟩
  · rw [hs]
    simpa [serverOf] using hne
  · rw [hs]
    rcases hport with ⟨-, rfl⟩ | ⟨-, n, -, hpos, rfl⟩
    · show 1 ≤ k.defaultPort.toNat
      cases k <;> decide
    · exact hpos
  · intro hunset
    rw [hs]
    rcases hport with ⟨-, rfl⟩ | ⟨hset, -⟩
    · rfl
    · exact absurd hunset hset
  · intro hset
    rw [hs]
    rcases hport with ⟨hunset, -⟩ | ⟨-, n, hn, -, rfl⟩
    · exact absurd hunset hset
    · exact hn
  · intro c
    rw [hs]
    exact credentials_eq_some_iff

end Validation

/-- The first check that fails gives the reason. -/
theorem ofPayload_of_firstFailing {p : Payload} {r : Refusal} (h : FirstFailing (checks p) r) :
    ofPayload p = .error r := by
  cases h with
  | here hk => exact ofPayload_unknown hk
  | later hk h =>
    obtain ⟨k, hk⟩ := hk
    have hkind := kindOf_of_namesKind hk
    cases h with
    | here hh => exact ofPayload_host hkind (hostOf_missing hh)
    | later hh h =>
      obtain ⟨s, -, -, hhost⟩ := hostOf_of_holdsText hh
      cases h with
      | here hp => exact ofPayload_port hkind hhost (portOf_invalid hp)
      | later hp h =>
        obtain ⟨port, hport⟩ : ∃ port, portOf p.port = .ok port := by
          rcases portOf_of_passes hp with ⟨-, h⟩ | ⟨-, n, -, -, h⟩
          · exact ⟨_, h⟩
          · exact ⟨_, h⟩
        cases h with
        | here hd =>
          -- the database is looked at once the kind is known
          have hdb : ¬DbAllowed k p.db := by
            intro hallowed
            refine hd fun l hl => ?_
            rwa [hl.unique hk]
          cases k with
          | mqtt => exact absurd ⟨by simp, by simp⟩ hdb
          | amqp =>
            rw [ofPayload_amqp hkind hhost hport,
              vhostOf_invalid fun hv => hdb ⟨fun _ => hv, by simp⟩]
            rfl
          | redis =>
            rw [ofPayload_redis hkind hhost hport,
              dbOf_invalid fun hv => hdb ⟨by simp, fun _ => hv⟩]
            rfl
        | later _ h => cases h

/-- When all checks pass there is an endpoint, and it is as the payload describes it. -/
theorem ofPayload_of_all_pass {p : Payload} (h : ∀ c ∈ checks p, c.passes) :
    ∃ k e, NamesKind p.brokerType k ∧ ofPayload p = .ok e ∧ Describes p k e := by
  simp only [checks, List.forall_mem_cons] at h
  obtain ⟨⟨k, hk⟩, hh, hp, hd, -⟩ := h
  have hkind := kindOf_of_namesKind hk
  have hallowed := hd k hk
  obtain ⟨s, hs, hne, hhost⟩ := hostOf_of_holdsText hh
  have htrim : ∃ t, p.host = some (.string t) ∧ Text.trim t.toList ≠ [] ∧
      String.ofList (Text.trim s.toList) = String.ofList (Text.trim t.toList) := ⟨s, hs, hne, rfl⟩
  obtain ⟨port, hport, hdescribed⟩ : ∃ port, portOf p.port = .ok port ∧
      ((Unset p.port ∧ port = none) ∨
        ¬Unset p.port ∧ ∃ n : UInt16, GivesNumber p.port n.toNat ∧ 1 ≤ n.toNat ∧ port = some n) := by
    rcases portOf_of_passes hp with ⟨hunset, h⟩ | ⟨hset, n, hn, hpos, h⟩
    · exact ⟨none, h, Or.inl ⟨hunset, rfl⟩⟩
    · exact ⟨some n, h, Or.inr ⟨hset, n, hn, hpos, rfl⟩⟩
  cases k with
  | mqtt =>
    refine ⟨.mqtt, _, hk, ofPayload_mqtt hkind hhost hport, ?_⟩
    exact describes_of_server rfl rfl htrim hdescribed (by simp) (by simp)
  | amqp =>
    obtain ⟨vhost, hvhost, hfrom⟩ := vhostOf_of_passes (hallowed.amqp rfl)
    have hok := ofPayload_amqp hkind hhost hport
    rw [hvhost] at hok
    refine ⟨.amqp, _, hk, hok, describes_of_server rfl rfl htrim hdescribed ?_ (by simp)⟩
    intro s' vhost' exchange heq
    cases heq
    exact ⟨hfrom, exchangeFrom_textOf p.exchange⟩
  | redis =>
    obtain ⟨db, hdb, hfrom⟩ := dbOf_of_passes (hallowed.redis rfl)
    have hok := ofPayload_redis hkind hhost hport
    rw [hdb] at hok
    refine ⟨.redis, _, hk, hok, describes_of_server rfl rfl htrim hdescribed (by simp) ?_⟩
    intro s' db' heq
    cases heq
    exact hfrom

/-! ### The checks decide -/

/-- A payload is decided by its checks: the first that fails gives the reason, and when none fails
there is an endpoint of the kind that the payload names, as the payload describes it.  The name never
matters, for MQTT neither the database nor the exchange does, and for Redis the exchange does not. -/
theorem checks_decide (p : Payload) :
    (∀ r, ofPayload p = .error r ↔ FirstFailing (checks p) r) ∧
    ((∀ c ∈ checks p, c.passes) →
      ∃ k e, NamesKind p.brokerType k ∧ ofPayload p = .ok e ∧ Describes p k e) ∧
    (∀ name, ofPayload { p with name := name } = ofPayload p) ∧
    (NamesKind p.brokerType .mqtt →
      ∀ db exchange, ofPayload { p with db := db, exchange := exchange } = ofPayload p) ∧
    (NamesKind p.brokerType .redis →
      ∀ exchange, ofPayload { p with exchange := exchange } = ofPayload p) := by
  refine ⟨?_, ofPayload_of_all_pass, ?_, ?_, ?_⟩
  · intro r
    refine ⟨?_, ofPayload_of_firstFailing⟩
    intro h
    rcases all_pass_or_firstFailing (checks p) with hall | ⟨r', hr'⟩
    · obtain ⟨k, e, -, hok, -⟩ := ofPayload_of_all_pass hall
      rw [h] at hok
      cases hok
    · have herror := ofPayload_of_firstFailing hr'
      rw [h] at herror
      cases herror
      exact hr'
  · intro name
    rfl
  · intro hk db exchange
    have hkind := kindOf_of_namesKind hk
    have hkind' := kindOf_of_namesKind (p := { p with db := db, exchange := exchange }) hk
    rw [ofPayload, ofPayload, hkind, hkind']
    rfl
  · intro hk exchange
    have hkind := kindOf_of_namesKind hk
    have hkind' := kindOf_of_namesKind (p := { p with exchange := exchange }) hk
    rw [ofPayload, ofPayload, hkind, hkind']
    rfl

/-- A payload that passes all checks, with blanks, a plus sign and a name that is no string. -/
def paddedPayload : Payload where
  name := some .null
  host := some (.string " h ")
  port := some (.string " +01883\t")
  brokerType := some (.string " Redis")
  db := some (.string "7")

/-- A payload for MQTT whose database is nothing that a kind could use. -/
def listDbPayload : Payload where
  host := some (.string "h")
  brokerType := some (.string "MQTT")
  db := some (.list [])

theorem checks_decide_padded :
    (∃ e, ofPayload paddedPayload = .ok e ∧ e.kind = .redis ∧ Describes paddedPayload .redis e ∧
      ofPayload { paddedPayload with exchange := some .null } = .ok e) ∧
    ofPayload { listDbPayload with db := none, exchange := none } = ofPayload listDbPayload := by
  have hredis : NamesKind paddedPayload.brokerType .redis := ⟨_, rfl, by decide⟩
  have hmqtt : NamesKind listDbPayload.brokerType .mqtt := ⟨_, rfl, by decide⟩
  have hpass : ∀ c ∈ checks paddedPayload, c.passes := by
    simp only [checks, List.forall_mem_cons]
    refine ⟨⟨.redis, hredis⟩, ⟨_, rfl, 'h', by decide, by decide⟩, Or.inr ⟨1883, ?_, by decide⟩, ?_,
      by simp⟩
    · exact Or.inr ⟨_, rfl, "01883".toList, by decide, by decide, by simp, by decide⟩
    · intro k hk
      obtain rfl := hk.unique hredis
      refine ⟨by simp, fun _ => Or.inr ⟨7, Or.inr ⟨_, rfl, "7".toList, ?_⟩, by decide⟩⟩
      exact ⟨by decide, by decide, by simp, by decide⟩
  obtain ⟨-, hok, -, -, hexchange⟩ := checks_decide paddedPayload
  obtain ⟨k, e, hk, he, hdescribes⟩ := hok hpass
  obtain rfl := hk.unique hredis
  obtain ⟨-, -, -, hdb, -⟩ := checks_decide listDbPayload
  refine ⟨⟨e, he, hdescribes.kind, hdescribes, ?_⟩, hdb hmqtt none none⟩
  rw [hexchange hredis (some .null), he]

end Endpoint

end BrokerNode
