/-
BrokerNode/Proofs/Settings.lean

What the settings of the service owe to the variables that they are found in.

When a check fails is said without the functions that carry it out (`Fails`); the order of the checks is
a list of their problems (`problems`).  `Accepts` says of which variables settings can be made, and
`Gives` what they are: each is a value that is given, or a default.

The two variables that are read as numerals, and the flag, get one lemma for each thing that can happen
to them.  They are put together in `variables_decide`.

A consumer that is given the same variables as a payload (`ownPayload`) trims them and checks them in its
own way.  It comes to the server that the service connects to, unless the host is blank or the port is
zero (`ofPayload_ownPayload`).
-/
import BrokerNode.Proofs.Endpoint.Checks
import BrokerNode.Proofs.First
import BrokerNode.Settings

namespace BrokerNode

namespace Settings

open Endpoint (IsNumeralOf)

/-! ### What is asked of the variables -/

/-- A value is a numeral of a number in a range. -/
def IsNumeralWithin (lo hi : Nat) (v : String) : Prop :=
  ∃ n, IsNumeralOf v.toList n ∧ lo ≤ n ∧ n ≤ hi

/-- When the check with this problem fails. -/
def Fails (lookup : String → Option String) : Problem → Prop
  | .missing name => lookup name = none
  | .invalidPort => ∃ v, lookup "MQTT_PORT" = some v ∧ ¬IsNumeralWithin 0 65535 v
  | .invalidRetain => ∃ v, lookup "MQTT_RETAIN" = some v ∧ v ≠ "true" ∧ v ≠ "false"
  | .invalidTimeLimit =>
    ∃ v, lookup "MQTT_PUBLISH_TIMEOUT_MS" = some v ∧ ¬IsNumeralWithin 0 (2 ^ 64 - 1) v
  | .timeLimitOutOfRange =>
    ∃ v, lookup "MQTT_PUBLISH_TIMEOUT_MS" = some v ∧ ¬IsNumeralWithin 100 1000000 v

/-- The problems in the order of their checks. -/
def problems : List Problem := [
  .missing "NODE_CONFIG_PATH", .missing "MQTT_HOST", .missing "MQTT_PORT", .invalidPort,
  .invalidRetain, .invalidTimeLimit, .timeLimitOutOfRange]

/-- The variables that settings are made of. -/
def names : List String := [
  "NODE_CONFIG_PATH", "MQTT_HOST", "MQTT_PORT", "MQTT_USERNAME", "MQTT_PASSWORD", "MQTT_ROOT_TOPIC",
  "MQTT_OUTPUT_TOPIC", "MQTT_RETAIN", "MQTT_PUBLISH_TIMEOUT_MS"]

/-- Of which variables settings can be made. -/
structure Accepts (lookup : String → Option String) : Prop where
  definitionPath : ∃ v, lookup "NODE_CONFIG_PATH" = some v
  host : ∃ v, lookup "MQTT_HOST" = some v
  port : ∃ v, lookup "MQTT_PORT" = some v ∧ IsNumeralWithin 0 65535 v
  retain : ∀ v, lookup "MQTT_RETAIN" = some v → v = "true" ∨ v = "false"
  timeLimit : ∀ v, lookup "MQTT_PUBLISH_TIMEOUT_MS" = some v → IsNumeralWithin 100 1000000 v

/-- The settings that are made of variables. -/
structure Gives (lookup : String → Option String) (s : Settings) : Prop where
  definitionPath : lookup "NODE_CONFIG_PATH" = some s.definitionPath
  host : lookup "MQTT_HOST" = some s.host
  port : ∃ v, lookup "MQTT_PORT" = some v ∧ IsNumeralOf v.toList s.port.toNat
  username : s.username = (lookup "MQTT_USERNAME").getD ""
  password : s.password = (lookup "MQTT_PASSWORD").getD ""
  retain : s.retain = true ↔ lookup "MQTT_RETAIN" = none ∨ lookup "MQTT_RETAIN" = some "true"
  timeLimit_default : lookup "MQTT_PUBLISH_TIMEOUT_MS" = none → s.timeLimit = 5000
  timeLimit_given : ∀ v, lookup "MQTT_PUBLISH_TIMEOUT_MS" = some v → IsNumeralOf v.toList s.timeLimit
  topic : s.topic = Topic.join ((lookup "MQTT_ROOT_TOPIC").getD "ha_auto")
    ((lookup "MQTT_OUTPUT_TOPIC").getD "broker")

/-! ### Numerals -/

theorem eq_of_isNumeralOf {s : List Char} {m n : Nat} (hm : IsNumeralOf s m)
    (hn : IsNumeralOf s n) : m = n := by
  rw [Endpoint.isNumeralOf_iff] at hm hn
  exact hm.2.symm.trans hn.2

theorem value?_of_isNumeralOf {bound n : Nat} {s : List Char} (hn : IsNumeralOf s n)
    (hle : n ≤ bound) : Text.Numeral.value? bound s = some n := by
  obtain ⟨hnumeral, hvalue⟩ := Endpoint.isNumeralOf_iff.mp hn
  exact Text.Numeral.value?_eq_some_iff.mpr ⟨hnumeral, hvalue, hle⟩

theorem value?_of_not_isNumeralWithin {bound : Nat} {v : String}
    (h : ¬IsNumeralWithin 0 bound v) : Text.Numeral.value? bound v.toList = none := by
  cases hv : Text.Numeral.value? bound v.toList with
  | none => rfl
  | some n =>
    obtain ⟨hnumeral, hvalue, hle⟩ := Text.Numeral.value?_eq_some_iff.mp hv
    exact absurd ⟨n, Endpoint.isNumeralOf_iff.mpr ⟨hnumeral, hvalue⟩, Nat.zero_le n, hle⟩ h

/-! ### One variable -/

variable {lookup : String → Option String}

theorem required_of_some {name v : String} (h : lookup name = some v) :
    required lookup name = .ok v := by
  rw [required, h]

theorem required_of_none {name : String} (h : lookup name = none) :
    required lookup name = .error (.missing name) := by
  rw [required, h]

/-- The port that variables give. -/
def portOf (lookup : String → Option String) : Except Problem Nat := do
  let port ← required lookup "MQTT_PORT"
  orProblem .invalidPort (Text.Numeral.value? 65535 port.toList)

/-- The retain flag that variables give. -/
def retainOf (lookup : String → Option String) : Except Problem Bool :=
  orProblem .invalidRetain (flag? ((lookup "MQTT_RETAIN").getD "true"))

/-- The time limit that variables give, whatever its range. -/
def timeLimitOf (lookup : String → Option String) : Except Problem Nat :=
  orProblem .invalidTimeLimit (Text.Numeral.value? 18446744073709551615
    ((lookup "MQTT_PUBLISH_TIMEOUT_MS").getD "5000").toList)

/-- The settings with the values that variables give. -/
def withValues (lookup : String → Option String) (definitionPath host : String) (port : Nat)
    (retain : Bool) (timeLimit : Nat) : Settings where
  definitionPath := definitionPath
  host := host
  port := port.toUInt16
  username := (lookup "MQTT_USERNAME").getD ""
  password := (lookup "MQTT_PASSWORD").getD ""
  retain := retain
  timeLimit := timeLimit
  topic := topicOf lookup

/-- Settings are made one variable after the other; the range of the time limit is looked at last. -/
theorem ofVariables_eq (lookup : String → Option String) : ofVariables lookup = (do
    let definitionPath ← required lookup "NODE_CONFIG_PATH"
    let host ← required lookup "MQTT_HOST"
    let port ← portOf lookup
    let retain ← retainOf lookup
    let timeLimit ← timeLimitOf lookup
    if minTimeLimit ≤ timeLimit ∧ timeLimit ≤ maxTimeLimit then
      return withValues lookup definitionPath host port retain timeLimit
    else throw .timeLimitOutOfRange) := by
  simp only [portOf, bind_assoc]
  rfl

theorem isNumeralWithin_of_port {v : String} (h : ¬Fails lookup .invalidPort)
    (hv : lookup "MQTT_PORT" = some v) : IsNumeralWithin 0 65535 v := by
  by_contra hwithin
  exact h ⟨v, hv, hwithin⟩

theorem portOf_of_none (h : lookup "MQTT_PORT" = none) :
    portOf lookup = .error (.missing "MQTT_PORT") := by
  rw [portOf, required_of_none h]
  rfl

theorem portOf_of_invalid {v : String} (h : lookup "MQTT_PORT" = some v)
    (hv : ¬IsNumeralWithin 0 65535 v) : portOf lookup = .error .invalidPort := by
  rw [portOf, required_of_some h]
  show orProblem .invalidPort (Text.Numeral.value? 65535 v.toList) = _
  rw [value?_of_not_isNumeralWithin hv]
  rfl

theorem portOf_of_isNumeralOf {v : String} {n : Nat} (h : lookup "MQTT_PORT" = some v)
    (hn : IsNumeralOf v.toList n) (hle : n ≤ 65535) : portOf lookup = .ok n := by
  rw [portOf, required_of_some h]
  show orProblem .invalidPort (Text.Numeral.value? 65535 v.toList) = _
  rw [value?_of_isNumeralOf hn hle]
  rfl

theorem retainOf_of_invalid {v : String} (h : lookup "MQTT_RETAIN" = some v) (htrue : v ≠ "true")
    (hfalse : v ≠ "false") : retainOf lookup = .error .invalidRetain := by
  rw [retainOf, h, Option.getD_some, flag?, if_neg htrue, if_neg hfalse]
  rfl

/-- A flag that is no problem is set unless it is given as not set. -/
theorem retainOf_of_valid (h : ¬Fails lookup .invalidRetain) : ∃ retain,
    retainOf lookup = .ok retain ∧
      (retain = true ↔ lookup "MQTT_RETAIN" = none ∨ lookup "MQTT_RETAIN" = some "true") := by
  cases hv : lookup "MQTT_RETAIN" with
  | none => exact ⟨true, by rw [retainOf, hv]; rfl, by simp⟩
  | some v =>
    by_cases htrue : v = "true"
    · subst htrue
      exact ⟨true, by rw [retainOf, hv]; rfl, by simp⟩
    · by_cases hfalse : v = "false"
      · subst hfalse
        exact ⟨false, by rw [retainOf, hv]; rfl, by decide⟩
      · exact absurd ⟨v, hv, htrue, hfalse⟩ h

theorem timeLimitOf_of_invalid {v : String} (h : lookup "MQTT_PUBLISH_TIMEOUT_MS" = some v)
    (hv : ¬IsNumeralWithin 0 (2 ^ 64 - 1) v) : timeLimitOf lookup = .error .invalidTimeLimit := by
  have hnone : Text.Numeral.value? 18446744073709551615 v.toList = none :=
    value?_of_not_isNumeralWithin hv
  rw [timeLimitOf, h, Option.getD_some, hnone]
  rfl

/-- A time limit that is no problem is read as the number whose numeral is given, or is the default. -/
theorem timeLimitOf_of_valid (h : ¬Fails lookup .invalidTimeLimit) : ∃ n,
    timeLimitOf lookup = .ok n ∧ (lookup "MQTT_PUBLISH_TIMEOUT_MS" = none → n = 5000) ∧
      ∀ v, lookup "MQTT_PUBLISH_TIMEOUT_MS" = some v → IsNumeralOf v.toList n := by
  cases hv : lookup "MQTT_PUBLISH_TIMEOUT_MS" with
  | none =>
    have hdefault : Text.Numeral.value? 18446744073709551615 "5000".toList = some 5000 := by decide
    refine ⟨5000, ?_, fun _ => rfl, by simp⟩
    rw [timeLimitOf, hv, Option.getD_none, hdefault]
    rfl
  | some v =>
    by_cases hwithin : IsNumeralWithin 0 (2 ^ 64 - 1) v
    · obtain ⟨n, hn, -, hle⟩ := hwithin
      have hread : Text.Numeral.value? 18446744073709551615 v.toList = some n :=
        value?_of_isNumeralOf hn hle
      refine ⟨n, ?_, by simp, ?_⟩
      · rw [timeLimitOf, hv, Option.getD_some, hread]
        rfl
      · rintro w hw
        cases hw
        exact hn
    · exact absurd ⟨v, hv, hwithin⟩ h

/-- Its range is a problem just when it is not in it. -/
theorem timeLimit_outOfRange_iff {n : Nat}
    (hdefault : lookup "MQTT_PUBLISH_TIMEOUT_MS" = none → n = 5000)
    (hgiven : ∀ v, lookup "MQTT_PUBLISH_TIMEOUT_MS" = some v → IsNumeralOf v.toList n) :
    Fails lookup .timeLimitOutOfRange ↔ ¬(minTimeLimit ≤ n ∧ n ≤ maxTimeLimit) := by
  constructor
  · rintro ⟨v, hv, hout⟩ hrange
    exact hout ⟨n, hgiven v hv, hrange⟩
  · intro hrange
    cases hv : lookup "MQTT_PUBLISH_TIMEOUT_MS" with
    | none =>
      rw [hdefault hv] at hrange
      exact absurd (by decide) hrange
    | some v =>
      refine ⟨v, hv, ?_⟩
      rintro ⟨m, hm, hwithin⟩
      rw [eq_of_isNumeralOf (hgiven v hv) hm] at hrange
      exact hrange hwithin

/-! ### All variables -/

/-- The first check that fails gives the problem. -/
theorem ofVariables_of_isFirst {p : Problem} (h : IsFirst (Fails lookup) problems p) :
    ofVariables lookup = .error p := by
  rw [ofVariables_eq]
  simp only [problems, IsFirst.cons_iff] at h
  rcases h with ⟨hpath, rfl⟩ | ⟨hpath, h⟩
  · rw [required_of_none hpath]
    rfl
  obtain ⟨path, hpath⟩ := Option.ne_none_iff_exists'.mp hpath
  rw [required_of_some hpath]
  rcases h with ⟨hhost, rfl⟩ | ⟨hhost, h⟩
  · rw [required_of_none hhost]
    rfl
  obtain ⟨host, hhost⟩ := Option.ne_none_iff_exists'.mp hhost
  rw [required_of_some hhost]
  rcases h with ⟨hport, rfl⟩ | ⟨hport, h⟩
  · rw [portOf_of_none hport]
    rfl
  obtain ⟨port, hport⟩ := Option.ne_none_iff_exists'.mp hport
  rcases h with ⟨⟨v, hv, hinvalid⟩, rfl⟩ | ⟨hvalid, h⟩
  · rw [portOf_of_invalid hv hinvalid]
    rfl
  obtain ⟨n, hn, -, hle⟩ := isNumeralWithin_of_port hvalid hport
  rw [portOf_of_isNumeralOf hport hn hle]
  rcases h with ⟨⟨v, hv, htrue, hfalse⟩, rfl⟩ | ⟨hretain, h⟩
  · rw [retainOf_of_invalid hv htrue hfalse]
    rfl
  obtain ⟨retain, hretain, -⟩ := retainOf_of_valid hretain
  rw [hretain]
  rcases h with ⟨⟨v, hv, hinvalid⟩, rfl⟩ | ⟨hlimit, h⟩
  · rw [timeLimitOf_of_invalid hv hinvalid]
    rfl
  obtain ⟨limit, hlimit, hdefault, hgiven⟩ := timeLimitOf_of_valid hlimit
  rw [hlimit]
  rcases h with ⟨hrange, rfl⟩ | ⟨-, h⟩
  · rw [timeLimit_outOfRange_iff hdefault hgiven] at hrange
    exact if_neg hrange
  · exact absurd h IsFirst.not_nil

/-- When no check fails, settings are made of the variables. -/
theorem ofVariables_of_none_fails (h : ∀ p ∈ problems, ¬Fails lookup p) :
    ∃ s, ofVariables lookup = .ok s ∧ Gives lookup s := by
  simp only [problems, List.forall_mem_cons] at h
  obtain ⟨hpath, hhost, hport, hvalid, hretain, hlimit, hrange, -⟩ := h
  obtain ⟨path, hpath⟩ := Option.ne_none_iff_exists'.mp hpath
  obtain ⟨host, hhost⟩ := Option.ne_none_iff_exists'.mp hhost
  obtain ⟨port, hport⟩ := Option.ne_none_iff_exists'.mp hport
  obtain ⟨n, hn, -, hle⟩ := isNumeralWithin_of_port hvalid hport
  obtain ⟨retain, hretain, hflag⟩ := retainOf_of_valid hretain
  obtain ⟨limit, hlimit, hdefault, hgiven⟩ := timeLimitOf_of_valid hlimit
  rw [timeLimit_outOfRange_iff hdefault hgiven, not_not] at hrange
  refine ⟨withValues lookup path host n retain limit, ?_, ?_⟩
  · rw [ofVariables_eq, required_of_some hpath, required_of_some hhost,
      portOf_of_isNumeralOf hport hn hle, hretain, hlimit]
    exact if_pos hrange
  · -- the port fits into 16 bits, so nothing is cut off
    have hfits : n.toUInt16.toNat = n := by
      rw [Nat.toUInt16_eq, UInt16.toNat_ofNat']
      omega
    exact ⟨hpath, hhost, ⟨port, hport, by rw [withValues, hfits]; exact hn⟩, rfl, rfl, hflag, hdefault,
      hgiven, rfl⟩

/-- No check fails just when the variables are accepted. -/
theorem none_fails_iff : (∀ p ∈ problems, ¬Fails lookup p) ↔ Accepts lookup := by
  simp only [problems, List.forall_mem_cons]
  constructor
  · rintro ⟨hpath, hhost, hport, hvalid, hretain, -, hrange, -⟩
    refine ⟨Option.ne_none_iff_exists'.mp hpath, Option.ne_none_iff_exists'.mp hhost, ?_, ?_, ?_⟩
    · obtain ⟨v, hv⟩ := Option.ne_none_iff_exists'.mp hport
      exact ⟨v, hv, isNumeralWithin_of_port hvalid hv⟩
    · intro v hv
      by_contra hword
      exact hretain ⟨v, hv, not_or.mp hword⟩
    · intro v hv
      by_contra hwithin
      exact hrange ⟨v, hv, hwithin⟩
  · intro h
    refine ⟨Option.ne_none_iff_exists'.mpr h.definitionPath, Option.ne_none_iff_exists'.mpr h.host,
      ?_, ?_, ?_, ?_, ?_, by simp⟩
    · obtain ⟨v, hv, -⟩ := h.port
      exact Option.ne_none_iff_exists'.mpr ⟨v, hv⟩
    · rintro ⟨v, hv, hinvalid⟩
      obtain ⟨w, hw, hwithin⟩ := h.port
      obtain rfl : w = v := Option.some.inj (hw.symm.trans hv)
      exact hinvalid hwithin
    · rintro ⟨v, hv, htrue, hfalse⟩
      exact (h.retain v hv).elim htrue hfalse
    · rintro ⟨v, hv, hinvalid⟩
      obtain ⟨n, hn, -, hle⟩ := h.timeLimit v hv
      exact hinvalid ⟨n, hn, Nat.zero_le n, hle.trans (by decide)⟩
    · rintro ⟨v, hv, hout⟩
      exact hout (h.timeLimit v hv)

/-- Variables give the same settings only. -/
theorem Gives.unique {s t : Settings} (hs : Gives lookup s) (ht : Gives lookup t) : s = t := by
  obtain ⟨v, hv, hsport⟩ := hs.port
  obtain ⟨w, hw, htport⟩ := ht.port
  obtain rfl : w = v := Option.some.inj (hw.symm.trans hv)
  have hport : s.port = t.port := UInt16.toNat_inj.mp (eq_of_isNumeralOf hsport htport)
  have hlimit : s.timeLimit = t.timeLimit := by
    cases h : lookup "MQTT_PUBLISH_TIMEOUT_MS" with
    | none => rw [hs.timeLimit_default h, ht.timeLimit_default h]
    | some v => exact eq_of_isNumeralOf (hs.timeLimit_given v h) (ht.timeLimit_given v h)
  have hpath := Option.some.inj (hs.definitionPath.symm.trans ht.definitionPath)
  have hhost := Option.some.inj (hs.host.symm.trans ht.host)
  have hretain : s.retain = t.retain := Bool.eq_iff_iff.mpr (hs.retain.trans ht.retain.symm)
  have husername := hs.username.trans ht.username.symm
  have hpassword := hs.password.trans ht.password.symm
  have htopic := hs.topic.trans ht.topic.symm
  obtain ⟨_, _, _, _, _, _, _, _⟩ := s
  simp_all

/-- Only the nine variables matter. -/
theorem ofVariables_congr {lookup lookup' : String → Option String}
    (h : ∀ name ∈ names, lookup' name = lookup name) :
    ofVariables lookup' = ofVariables lookup := by
  simp only [names, List.forall_mem_cons] at h
  obtain ⟨hpath, hhost, hport, husername, hpassword, hroot, htopic, hretain, hlimit, -⟩ := h
  simp only [ofVariables, required, topicOf, hpath, hhost, hport, husername, hpassword, hroot, htopic,
    hretain, hlimit]

/-- Either the variables are accepted and give settings, or there is a first check that fails. -/
theorem ofVariables_cases (lookup : String → Option String) :
    (Accepts lookup ∧ ∃ s, ofVariables lookup = .ok s ∧ Gives lookup s) ∨
      ∃ p, IsFirst (Fails lookup) problems p ∧ ofVariables lookup = .error p := by
  rcases IsFirst.none_or_exists (Fails lookup) problems with hnone | ⟨p, hp⟩
  · exact Or.inl ⟨none_fails_iff.mp hnone, ofVariables_of_none_fails hnone⟩
  · exact Or.inr ⟨p, hp, ofVariables_of_isFirst hp⟩

theorem ofVariables_eq_ok_iff {s : Settings} :
    ofVariables lookup = .ok s ↔ Accepts lookup ∧ Gives lookup s := by
  constructor
  · intro hok
    rcases ofVariables_cases lookup with ⟨haccepts, t, ht, hgives⟩ | ⟨p, -, herror⟩
    · obtain rfl : t = s := Except.ok.inj (ht.symm.trans hok)
      exact ⟨haccepts, hgives⟩
    · rw [hok] at herror
      cases herror
  · rintro ⟨haccepts, hgives⟩
    obtain ⟨t, ht, hgives'⟩ := ofVariables_of_none_fails (none_fails_iff.mpr haccepts)
    rw [hgives.unique hgives', ht]

theorem ofVariables_eq_error_iff {p : Problem} :
    ofVariables lookup = .error p ↔ IsFirst (Fails lookup) problems p := by
  refine ⟨?_, ofVariables_of_isFirst⟩
  intro herror
  rcases ofVariables_cases lookup with ⟨-, s, hok, -⟩ | ⟨q, hq, herror'⟩
  · rw [herror] at hok
    cases hok
  · obtain rfl : q = p := Except.error.inj (herror'.symm.trans herror)
    exact hq

/-- Variables are decided by the checks: when they are accepted there are settings, those that they
give, and otherwise the first check that fails gives the problem.  No other variable matters. -/
theorem variables_decide (lookup : String → Option String) :
    (∀ s, ofVariables lookup = .ok s ↔ Accepts lookup ∧ Gives lookup s) ∧
    (Accepts lookup → ∃ s, ofVariables lookup = .ok s) ∧
    (∀ p, ofVariables lookup = .error p ↔ IsFirst (Fails lookup) problems p) ∧
    ∀ lookup', (∀ name ∈ names, lookup' name = lookup name) →
      ofVariables lookup' = ofVariables lookup := by
  refine ⟨fun s => ofVariables_eq_ok_iff, ?_, fun p => ofVariables_eq_error_iff,
    fun lookup' h => ofVariables_congr h⟩
  intro haccepts
  obtain ⟨s, hs, -⟩ := ofVariables_of_none_fails (none_fails_iff.mpr haccepts)
  exact ⟨s, hs⟩

/-- Variables with a plus sign and zeros in front of their numerals, at the lower end of the range of
the time limit. -/
def sparseVariables (name : String) : Option String :=
  [("NODE_CONFIG_PATH", "n.json"), ("MQTT_HOST", " h "), ("MQTT_PORT", "+000000065535"),
    ("MQTT_RETAIN", "false"), ("MQTT_PUBLISH_TIMEOUT_MS", "00100")].lookup name

theorem variables_decide_sparse : Accepts sparseVariables ∧
    (∃ s, ofVariables sparseVariables = .ok s ∧ s.retain = false) ∧
    ofVariables (fun name => if name = "HOME" then some "x" else sparseVariables name) =
      ofVariables sparseVariables := by
  have haccepts : Accepts sparseVariables := by
    refine ⟨⟨_, rfl⟩, ⟨_, rfl⟩, ⟨"+000000065535", rfl, 65535, ?_, by decide, by decide⟩, ?_, ?_⟩
    · exact ⟨"000000065535".toList, by decide, by decide, by simp, by decide⟩
    · intro v hv
      exact Or.inr (Option.some.inj hv).symm
    · intro v hv
      obtain rfl : "00100" = v := Option.some.inj hv
      exact ⟨100, ⟨"00100".toList, by decide, by decide, by simp, by decide⟩, by decide, by decide⟩
  obtain ⟨hiff, hok, -, hcongr⟩ := variables_decide sparseVariables
  obtain ⟨s, hs⟩ := hok haccepts
  refine ⟨haccepts, ⟨s, hs, ?_⟩, hcongr _ (by decide)⟩
  have hflag := ((hiff s).mp hs).2.retain
  exact Bool.eq_false_iff.mpr fun htrue => absurd (hflag.mp htrue) (by decide)

example : ofVariables ([("NODE_CONFIG_PATH", "n"), ("MQTT_HOST", "h"), ("MQTT_PORT", " 1883"),
    ("MQTT_RETAIN", "yes"), ("MQTT_PUBLISH_TIMEOUT_MS", "1")].lookup ·) = .error .invalidPort := by
  decide

/-! ### The broker of the service as an endpoint -/

/-- The payload that describes the broker of the service, with the variables as they are. -/
def ownPayload (lookup : String → Option String) : Payload where
  host := (lookup "MQTT_HOST").map .string
  port := (lookup "MQTT_PORT").map .string
  brokerType := some (.string "mqtt")
  username := some (.string ((lookup "MQTT_USERNAME").getD ""))
  password := some (.string ((lookup "MQTT_PASSWORD").getD ""))

open Endpoint (HoldsText GivesNumber Unset ofPayload)

/-- A field with a numeral is not unset, and gives just its number. -/
theorem givesNumber_iff_of_isNumeralOf {v : String} {n : Nat} (h : IsNumeralOf v.toList n) :
    ¬Unset (some (.string v)) ∧ ∀ m, GivesNumber (some (.string v)) m ↔ m = n := by
  have hn := Endpoint.givesNumber_of_isNumeralOf h
  refine ⟨hn.not_unset, fun m => ⟨fun hm => hm.unique hn, ?_⟩⟩
  rintro rfl
  exact hn

section OwnPayload

variable {s : Settings}

theorem namesKind_ownPayload (lookup : String → Option String) :
    Endpoint.NamesKind (ownPayload lookup).brokerType .mqtt :=
  ⟨"mqtt", rfl, by decide⟩

/-- The host is the one of the settings. -/
theorem host_ownPayload (h : Gives lookup s) : (ownPayload lookup).host = some (.string s.host) := by
  rw [ownPayload, h.host]
  rfl

/-- The port is the one of the settings, if it is no zero. -/
theorem portOf_ownPayload (h : Gives lookup s) (hport : s.port ≠ 0) :
    Endpoint.portOf (ownPayload lookup).port = .ok (some s.port) := by
  obtain ⟨v, hv, hn⟩ := h.port
  obtain ⟨hset, hgives⟩ := givesNumber_iff_of_isNumeralOf hn
  have hfield : (ownPayload lookup).port = some (.string v) := by
    rw [ownPayload, hv]
    rfl
  have hpos : 1 ≤ s.port.toNat :=
    Nat.one_le_iff_ne_zero.mpr fun hzero => hport (UInt16.toNat_inj.mp hzero)
  have hle : s.port.toNat ≤ 65535 := Nat.le_of_lt_succ s.port.toNat_lt
  rw [hfield]
  rcases Endpoint.portOf_of_passes (Or.inr ⟨_, (hgives _).mpr rfl, hpos, hle⟩) with
    ⟨hunset, -⟩ | ⟨-, port, hport', -, hok⟩
  · exact absurd hunset hset
  · obtain rfl : port = s.port := UInt16.toNat_inj.mp ((hgives _).mp hport')
    exact hok

/-- A port of zero is refused, however it is written. -/
theorem portOf_ownPayload_zero (h : Gives lookup s) (hport : s.port = 0) : ∃ v,
    lookup "MQTT_PORT" = some v ∧ Endpoint.portOf (ownPayload lookup).port =
      .error (.invalidPort (Json.render (.string v))) := by
  obtain ⟨v, hv, hn⟩ := h.port
  obtain ⟨hset, hgives⟩ := givesNumber_iff_of_isNumeralOf hn
  have hfield : (ownPayload lookup).port = some (.string v) := by
    rw [ownPayload, hv]
    rfl
  refine ⟨v, hv, ?_⟩
  rw [hfield, Endpoint.portOf_invalid]
  · rfl
  · rintro (hunset | ⟨n, hn', hpos, -⟩)
    · exact hset hunset
    · rw [hgives, hport] at hn'
      exact absurd hn' (Nat.ne_of_gt hpos)

/-- The server that the payload describes is the one of the settings, with the host that is found. -/
theorem serverOf_ownPayload (h : Gives lookup s) (host : String) :
    Endpoint.serverOf (ownPayload lookup) .mqtt host (some s.port) = { s.server with host } := by
  rw [server, h.username, h.password]
  rfl

end OwnPayload

/-- The payload for the broker of the service is decided as its settings are: it describes the server
that the service itself connects to, blanks around the host aside, unless its host is blank or its port
is zero. -/
theorem ofPayload_ownPayload {s : Settings} (h : ofVariables lookup = .ok s) :
    ((∃ e, ofPayload (ownPayload lookup) = .ok e) ↔
      HoldsText (ownPayload lookup).host ∧ s.port ≠ 0) ∧
    (HoldsText (ownPayload lookup).host → s.port ≠ 0 → ofPayload (ownPayload lookup) =
      .ok (.mqtt { s.server with host := String.ofList (Text.trim s.server.host.toList) })) ∧
    (¬HoldsText (ownPayload lookup).host → ofPayload (ownPayload lookup) = .error .missingHost) ∧
    (HoldsText (ownPayload lookup).host → s.port = 0 → ∃ v, lookup "MQTT_PORT" = some v ∧
      ofPayload (ownPayload lookup) = .error (.invalidPort (Json.render (.string v)))) := by
  have hgives := (ofVariables_eq_ok_iff.mp h).2
  have hkind := Endpoint.kindOf_of_namesKind (namesKind_ownPayload lookup)
  have hmissing : ¬HoldsText (ownPayload lookup).host →
      ofPayload (ownPayload lookup) = .error .missingHost := fun hblank =>
    Endpoint.ofPayload_host hkind (Endpoint.hostOf_missing hblank)
  have hfound : HoldsText (ownPayload lookup).host → Endpoint.hostOf (ownPayload lookup).host =
      .ok (String.ofList (Text.trim s.server.host.toList)) := by
    intro htext
    obtain ⟨host, hhost, -, hok⟩ := Endpoint.hostOf_of_holdsText htext
    rw [host_ownPayload hgives] at hhost
    cases hhost
    exact hok
  have hinvalid : HoldsText (ownPayload lookup).host → s.port = 0 → ∃ v,
      lookup "MQTT_PORT" = some v ∧
        ofPayload (ownPayload lookup) = .error (.invalidPort (Json.render (.string v))) := by
    intro htext hport
    obtain ⟨v, hv, herror⟩ := portOf_ownPayload_zero hgives hport
    exact ⟨v, hv, Endpoint.ofPayload_port hkind (hfound htext) herror⟩
  have hdescribed : HoldsText (ownPayload lookup).host → s.port ≠ 0 → ofPayload (ownPayload lookup) =
      .ok (.mqtt { s.server with host := String.ofList (Text.trim s.server.host.toList) }) := by
    intro htext hport
    rw [Endpoint.ofPayload_mqtt hkind (hfound htext) (portOf_ownPayload hgives hport),
      serverOf_ownPayload hgives]
  refine ⟨⟨?_, ?_⟩, hdescribed, hmissing, hinvalid⟩
  · rintro ⟨e, he⟩
    by_cases htext : HoldsText (ownPayload lookup).host
    · refine ⟨htext, fun hport => ?_⟩
      obtain ⟨v, -, herror⟩ := hinvalid htext hport
      rw [he] at herror
      cases herror
    · rw [hmissing htext] at he
      cases he
  · rintro ⟨htext, hport⟩
    exact ⟨_, hdescribed htext hport⟩

/-- The same variables with another value for one of them. -/
def sparseBut (name value : String) : String → Option String := fun n =>
  if n = name then some value else sparseVariables n

theorem ofPayload_ownPayload_sparse :
    ofPayload (ownPayload sparseVariables) = .ok (.mqtt ⟨"h", 65535, none⟩) ∧
    ofPayload (ownPayload (sparseBut "MQTT_HOST" "\t ")) = .error .missingHost ∧
    ofPayload (ownPayload (sparseBut "MQTT_PORT" "+00")) = .error (.invalidPort "\"+00\"") := by
  refine ⟨?_, ?_, ?_⟩
  · obtain ⟨s, hs⟩ : ∃ s, ofVariables sparseVariables = .ok s := ⟨_, rfl⟩
    obtain ⟨-, hok, -⟩ := ofPayload_ownPayload hs
    cases hs
    exact hok ⟨_, rfl, 'h', by decide, by decide⟩ (by decide)
  · obtain ⟨s, hs⟩ : ∃ s, ofVariables (sparseBut "MQTT_HOST" "\t ") = .ok s := ⟨_, rfl⟩
    obtain ⟨-, -, hmissing, -⟩ := ofPayload_ownPayload hs
    refine hmissing ?_
    rintro ⟨host, hhost, c, hc, hblank⟩
    cases hhost
    have hall : ∀ c ∈ "\t ".toList, Text.isBlank c = true := List.all_eq_true.mp (by decide)
    rw [hall c hc] at hblank
    cases hblank
  · obtain ⟨s, hs⟩ : ∃ s, ofVariables (sparseBut "MQTT_PORT" "+00") = .ok s := ⟨_, rfl⟩
    obtain ⟨-, -, -, hinvalid⟩ := ofPayload_ownPayload hs
    cases hs
    obtain ⟨v, hv, herror⟩ := hinvalid ⟨_, rfl, 'h', by decide, by decide⟩ (by decide)
    cases hv
    exact herror

end Settings

end BrokerNode
