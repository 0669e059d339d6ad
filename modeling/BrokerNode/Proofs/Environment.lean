/-
BrokerNode/Proofs/Environment.lean

The environment of a process, topped up from the nearest environment file, as one lookup.

An environment is changed line by line, and each line reads what the lines before it have set.  Here the
lines are followed without an environment: `learn` says what is known of the variables behind an
assignment, and `assignments` are those of the lines up to the first that is malformed, each with the
values known at its place.  One line does to an environment what `learn` does (`supply_eq`), and so do all
of them (`follow_eq`), as long as the null character is nowhere, so that nothing is refused.

The main statement, `ofEnvironment_isToppedUp`, is that the settings of a process are those of a single
lookup: a variable has the value of the process, or else that of the first assignment to it in the nearest
file, or else none.
-/
import BrokerNode.Proofs.Dotenv
import BrokerNode.Proofs.Folder
import BrokerNode.Proofs.Settings

namespace BrokerNode

/-! ### Lines without an environment -/

namespace Dotenv

/-- A name as it is looked for. -/
def sought (name : String) : List Char := name.toList ++ ['=']

namespace Assignment

/-- An assignment as it is written down. -/
def text (a : Assignment) : List Char := sought a.name ++ a.value.toList

/-- What a name finds in an assignment: the text behind it and an equals sign.  For the name assigned to
this is the value; a longer text that goes on from that name may find a part of it. -/
def given? (a : Assignment) (name : String) : Option String :=
  if (sought name).isPrefixOf a.text then some (String.ofList (a.text.drop (sought name).length))
  else none

theorem given?_eq_some_iff {a : Assignment} {name v : String} :
    a.given? name = some v ↔ a.text = sought name ++ v.toList := by
  unfold given?
  split
  · next h =>
    obtain ⟨r, hr⟩ := List.isPrefixOf_iff_prefix.mp h
    rw [← hr, List.drop_left, Option.some.injEq, List.append_cancel_left_eq]
    constructor
    · rintro rfl
      exact String.toList_ofList.symm
    · rintro rfl
      exact String.ofList_toList
  · next h =>
    simp only [reduceCtorEq, false_iff]
    intro htext
    exact h (List.isPrefixOf_iff_prefix.mpr (htext ▸ List.prefix_append _ _))

@[simp] theorem given?_name (a : Assignment) : a.given? a.name = some a.value :=
  given?_eq_some_iff.mpr rfl

end Assignment

/-- What is known of the variables behind an assignment: nothing new if the name has a value by then, and
otherwise its value.  The rule is for all that may be looked for, also for a text with an equals sign in it
that starts with the name: it stands between braces in a value, and finds what is behind it. -/
def learn (known : String → Option String) (a : Assignment) (name : String) : Option String :=
  if (known a.name).isSome then known name
  else if (sought a.name).isPrefixOf (sought name) then a.given? name
  else known name

/-- The assignments that lines make, up to the first that is malformed.  The values that are known stand
in for the variables. -/
def assignments (known : String → Option String) : List (List Char) → List Assignment
  | [] => []
  | line :: lines =>
    match readLine (fun name => (known name).getD "") line with
    | .nothing => assignments known lines
    | .assignment a => a :: assignments (learn known a) lines
    | .malformed => []

/-- The value of the first assignment to a name. -/
def first? (name : String) (as : List Assignment) : Option String :=
  (as.find? fun a => a.name = name).map Assignment.value

theorem first?_eq_some {name : String} {as : List Assignment} {a : Assignment}
    (h : IsFirst (fun b => b.name = name) as a) : first? name as = some a.value := by
  have hfind : as.find? (fun b => b.name = name) = some a := IsFirst.find?_eq (by simpa using h)
  rw [first?, hfind, Option.map_some]

theorem first?_eq_none {name : String} {as : List Assignment} (h : ∀ a ∈ as, a.name ≠ name) :
    first? name as = none := by
  have has : as.find? (fun a => a.name = name) = none :=
    List.find?_eq_none.mpr fun a ha => by simpa using h a ha
  rw [first?, has, Option.map_none]

/-- A name without an equals sign goes on from no name but itself. -/
theorem sought_prefix_iff {name other : String} (h : '=' ∉ name.toList) :
    sought other <+: sought name ↔ other = name := by
  constructor
  · intro hprefix
    rcases List.prefix_concat_iff.mp hprefix with heq | hlonger
    · exact String.toList_inj.mp (List.append_cancel_right heq)
    · have hmem : '=' ∈ sought other := by simp [sought]
      exact absurd (hlonger.subset hmem) h
  · rintro rfl
    exact List.prefix_rfl

theorem learn_eq_or {known : String → Option String} {a : Assignment} {name : String}
    (h : '=' ∉ name.toList) :
    learn known a name = (known name).or (if a.name = name then some a.value else none) := by
  by_cases hname : a.name = name
  · subst hname
    unfold learn
    cases known a.name <;> simp
  · have hprefix : ¬(sought a.name).isPrefixOf (sought name) = true := fun hprefix =>
      hname ((sought_prefix_iff h).mp (List.isPrefixOf_iff_prefix.mp hprefix))
    rw [learn, if_neg hprefix, ite_self, if_neg hname, Option.or_none]

/-- Behind all assignments a name has the value that it had, or that of the first assignment to it. -/
theorem foldl_learn_eq_or {name : String} (h : '=' ∉ name.toList) (as : List Assignment) :
    ∀ known : String → Option String,
      as.foldl learn known name = (known name).or (first? name as) := by
  induction as with
  | nil =>
    intro known
    simp [first?]
  | cons a as ih =>
    intro known
    rw [List.foldl_cons, ih, learn_eq_or h, Option.or_assoc]
    by_cases hname : a.name = name <;> simp [first?, hname]

end Dotenv

/-! ### Lines in an environment -/

namespace Environment

open Dotenv (Assignment IsName sought learn assignments)
open Text (utf8)

/-- There is no null character in an environment: its entries end there. -/
def IsNullFree (env : Environment) : Prop := ∀ e ∈ env.entries, 0 ∉ e

theorem bytes_eq (s : String) : bytes s = utf8 s.toList := by
  rw [bytes, Text.toUTF8_eq]

theorem head_eq (name : String) : head name = utf8 (sought name) := by
  rw [head, bytes_eq, sought, Text.utf8_append]
  rfl

theorem entry_eq (a : Assignment) : entry a.name a.value = utf8 a.text := by
  rw [entry, head_eq, bytes_eq, Assignment.text, Text.utf8_append]

theorem behind?_eq_some_iff {start e r : List UInt8} : behind? start e = some r ↔ e = start ++ r := by
  unfold behind?
  split
  · next h =>
    obtain ⟨t, rfl⟩ := List.isPrefixOf_iff_prefix.mp h
    rw [List.drop_left, Option.some.injEq, List.append_cancel_left_eq, eq_comm]
  · next h =>
    simp only [reduceCtorEq, false_iff]
    rintro rfl
    exact h (List.isPrefixOf_iff_prefix.mpr (List.prefix_append _ _))

theorem behind?_eq_none {start e : List UInt8} (h : ¬start <+: e) : behind? start e = none :=
  if_neg fun hprefix => h (List.isPrefixOf_iff_prefix.mp hprefix)

/-- What an entry holds behind a name, as a text. -/
theorem behind?_bind_eq_some_iff {start e : List UInt8} {v : String} :
    ((behind? start e).bind fun r => String.fromUTF8? ⟨r.toArray⟩) = some v ↔
      e = start ++ utf8 v.toList := by
  simp only [Option.bind_eq_some_iff, behind?_eq_some_iff, Text.fromUTF8?_toArray_eq_some_iff,
    exists_eq_right]

theorem value?_eq {name : String} (h : name ≠ "") (env : Environment) :
    env.value? name = (env.entries.findSome? (behind? (head name))).bind
      fun r => String.fromUTF8? ⟨r.toArray⟩ :=
  if_neg fun hempty => h (String.isEmpty_iff.mp hempty)

/-- An entry that is no answer to a question can be left out. -/
theorem findSome?_filter_of_none {start : List UInt8} {keep : List UInt8 → Bool}
    {entries : List (List UInt8)} (h : ∀ e, keep e = false → behind? start e = none) :
    (entries.filter keep).findSome? (behind? start) = entries.findSome? (behind? start) := by
  induction entries with
  | nil => rfl
  | cons e entries ih =>
    cases hkeep : keep e with
    | true => rw [List.filter_cons_of_pos hkeep, List.findSome?_cons, List.findSome?_cons, ih]
    | false =>
      rw [List.filter_cons_of_neg (by simp [hkeep]), ih, List.findSome?_cons, h e hkeep]

section Set

variable {a : Assignment} {name : String}

/-- No entry starts with two names unless one of them goes on from the other. -/
theorem not_both_heads (ha : IsName a.name.toList) (h : ¬sought a.name <+: sought name)
    {e : List UInt8} (hname : head name <+: e) : ¬head a.name <+: e := by
  intro hset
  rw [head_eq] at hname hset
  rcases List.prefix_or_prefix_of_prefix hset hname with hprefix | hprefix
  · exact h (Text.utf8_prefix_iff.mp hprefix)
  · have heq : name = a.name :=
      (Dotenv.sought_prefix_iff ha.not_mem.1).mp (Text.utf8_prefix_iff.mp hprefix)
    exact h (heq ▸ List.prefix_rfl)

/-- A name that is set, or goes on from one that is, finds what it does in the assignment. -/
theorem value?_set_of_prefix (ha : IsName a.name.toList) (h : sought a.name <+: sought name)
    (env : Environment) : (env.set a).value? name = a.given? name := by
  have hname : name ≠ "" := by
    rintro rfl
    have hempty : a.name = "" := (Dotenv.sought_prefix_iff (by simp)).mp h
    exact ha.1 (by rw [hempty]; rfl)
  -- every other entry that it could find is gone
  have hgone : (env.entries.filter fun e => !(head a.name).isPrefixOf e).findSome?
      (behind? (head name)) = none := by
    rw [List.findSome?_eq_none_iff]
    intro e he
    refine behind?_eq_none fun hprefix => ?_
    have hset : head a.name <+: e := by
      refine List.IsPrefix.trans ?_ hprefix
      rw [head_eq, head_eq]
      exact Text.utf8_prefix_iff.mpr h
    simp [List.isPrefixOf_iff_prefix.mpr hset] at he
  rw [value?_eq hname, set, List.findSome?_cons, hgone]
  have hfirst : ((behind? (head name) (entry a.name a.value)).bind
      fun r => String.fromUTF8? ⟨r.toArray⟩) = a.given? name := by
    ext v
    rw [behind?_bind_eq_some_iff, Assignment.given?_eq_some_iff, entry_eq, head_eq,
      ← Text.utf8_append, Text.utf8_inj]
  rw [← hfirst]
  cases behind? (head name) (entry a.name a.value) <;> rfl

/-- Any other name keeps its value. -/
theorem value?_set_of_not_prefix (ha : IsName a.name.toList) (h : ¬sought a.name <+: sought name)
    (env : Environment) : (env.set a).value? name = env.value? name := by
  by_cases hname : name = ""
  · subst hname
    rfl
  have hnew : behind? (head name) (entry a.name a.value) = none :=
    behind?_eq_none fun hprefix => not_both_heads ha h hprefix (List.prefix_append _ _)
  rw [value?_eq hname, value?_eq hname, set, List.findSome?_cons, hnew]
  refine congrArg (Option.bind · _) (findSome?_filter_of_none fun e he => ?_)
  refine behind?_eq_none fun hprefix => not_both_heads ha h hprefix ?_
  simpa using he

end Set

/-! #### Null characters -/

theorem null_not_mem_value {env : Environment} (h : env.IsNullFree) {name v : String}
    (hv : env.value? name = some v) : '\x00' ∉ v.toList := by
  by_cases hname : name = ""
  · subst hname
    cases hv
  rw [value?_eq hname, Option.bind_eq_some_iff] at hv
  obtain ⟨r, hr, hv⟩ := hv
  obtain ⟨e, he, hbehind⟩ := List.exists_of_findSome?_eq_some hr
  rw [behind?_eq_some_iff] at hbehind
  rw [Text.fromUTF8?_toArray_eq_some_iff] at hv
  rw [← Text.mem_utf8_iff (b := 0) (by decide) rfl, ← hv]
  intro hnull
  refine h e he ?_
  rw [hbehind]
  exact List.mem_append_right _ hnull

theorem null_not_mem_getD {env : Environment} (h : env.IsNullFree) (name : String) :
    '\x00' ∉ ((env.value? name).getD "").toList := by
  cases hvalue : env.value? name with
  | none => simp
  | some v => exact null_not_mem_value h hvalue

/-- A line without the null character assigns no value with it, for none comes in by way of a variable. -/
theorem null_not_mem_of_readLine {env : Environment} {line : List Char} {a : Assignment}
    (h : env.IsNullFree) (hline : '\x00' ∉ line)
    (hread : Dotenv.readLine (fun name => (env.value? name).getD "") line = .assignment a) :
    '\x00' ∉ a.value.toList := by
  intro hnull
  rcases (Dotenv.of_readLine hread).2 _ hnull with hnull | hnull | ⟨name, hnull⟩
  · exact hline hnull
  · exact absurd hnull (by decide)
  · exact null_not_mem_getD h name hnull

theorem isNullFree_set {env : Environment} {a : Assignment} (h : env.IsNullFree)
    (ha : IsName a.name.toList) (hv : '\x00' ∉ a.value.toList) : (env.set a).IsNullFree := by
  intro e he
  rcases List.mem_cons.mp he with rfl | he
  · rw [entry_eq, Text.mem_utf8_iff (c := '\x00') (by decide) rfl]
    simp [Assignment.text, sought, ha.not_mem.2, hv]
  · exact h e (List.mem_of_mem_filter he)

/-! #### Following -/

/-- A line with an assignment adds to an environment what is learnt from it. -/
theorem supply_eq {env : Environment} {a : Assignment} (h : env.IsNullFree)
    (ha : IsName a.name.toList) (hv : '\x00' ∉ a.value.toList) :
    ∃ env', env.supply a = .ok env' ∧ env'.IsNullFree ∧ env'.value? = learn env.value? a := by
  by_cases hset : (env.value? a.name).isSome = true
  · refine ⟨env, if_pos hset, h, ?_⟩
    funext name
    exact (if_pos hset).symm
  · refine ⟨env.set a, ?_, isNullFree_set h ha hv, ?_⟩
    · rw [supply, if_neg hset, if_neg hv]
    · funext name
      rw [learn, if_neg hset]
      split
      · next hprefix => exact value?_set_of_prefix ha (List.isPrefixOf_iff_prefix.mp hprefix) env
      · next hprefix =>
        exact value?_set_of_not_prefix ha (fun h => hprefix (List.isPrefixOf_iff_prefix.mpr h)) env

/-- The lines of a file add to an environment what is learnt from their assignments, in turn. -/
theorem follow_eq {lines : List (List Char)} (hlines : ∀ line ∈ lines, '\x00' ∉ line) :
    ∀ env : Environment, env.IsNullFree → ∃ env', env.follow lines = .ok env' ∧
      env'.value? = (assignments env.value? lines).foldl learn env.value? := by
  induction lines with
  | nil => exact fun env _ => ⟨env, rfl, rfl⟩
  | cons line lines ih =>
    intro env h
    have hrest := ih fun l hl => hlines l (List.mem_cons_of_mem _ hl)
    cases hread : Dotenv.readLine (fun name => (env.value? name).getD "") line with
    | nothing =>
      simp only [follow, assignments, hread]
      exact hrest env h
    | malformed =>
      simp only [follow, assignments, hread]
      exact ⟨env, rfl, rfl⟩
    | assignment a =>
      have ha := (Dotenv.of_readLine hread).1
      have hv := null_not_mem_of_readLine h (hlines line List.mem_cons_self) hread
      obtain ⟨env', hsupply, h', hlearn⟩ := supply_eq h ha hv
      simp only [follow, assignments, hread, hsupply]
      rw [List.foldl_cons, ← hlearn]
      exact hrest env' h'

/-- The assignments of an environment file, for an environment that it tops up. -/
def assigned (env : Environment) (content : ByteArray) : List Assignment :=
  assignments env.value? (Dotenv.logicalLines content)

/-- What a topped up environment says of a name, without the environment. -/
theorem topUp_eq {env : Environment} {content : ByteArray} (h : env.IsNullFree)
    (hcontent : 0 ∉ content.data.toList) :
    ∃ env', env.topUp (some content) = .ok env' ∧ ∀ name, '=' ∉ name.toList →
      env'.value? name = (env.value? name).or (Dotenv.first? name (env.assigned content)) := by
  have hlines : ∀ line ∈ Dotenv.logicalLines content, '\x00' ∉ line := fun line hline hnull =>
    hcontent (Dotenv.mem_of_mem_logicalLines (b := 0) (by decide) rfl hline hnull)
  obtain ⟨env', hfollow, hvalue⟩ := follow_eq hlines env h
  refine ⟨env', hfollow, fun name hname => ?_⟩
  rw [hvalue, Dotenv.foldl_learn_eq_or hname]
  rfl

end Environment

/-! ### The settings of a process -/

/-- What is found for a variable of a process: its own value, or that of the first assignment to it in
the nearest file. -/
def Environment.found? (env : Environment) (folders : List Folder) (name : String) : Option String :=
  (env.value? name).or
    ((Folder.nearest? ".env" folders).bind fun content => Dotenv.first? name (env.assigned content))

namespace Settings

/-- The settings of a process are those of one lookup. -/
structure IsToppedUp (env : Environment) (folders : List Folder) (lookup : String → Option String) :
    Prop where
  settings : ofEnvironment env (Folder.nearest? ".env" folders) = .ok (ofVariables lookup)
  own : ∀ name v, env.value? name = some v → lookup name = some v
  first : ∀ name, env.value? name = none → ∀ content, Folder.IsNearest ".env" folders content →
    ∀ a, IsFirst (fun b => b.name = name) (env.assigned content) a → lookup name = some a.value
  none : ∀ name, env.value? name = none →
    (∀ content, Folder.IsNearest ".env" folders content → ∀ a ∈ env.assigned content, a.name ≠ name) →
    lookup name = none
  outer : ∀ folder outer content, folders = folder :: outer →
    folder.lookup ".env" = some (.file content) → ∀ outer',
    ofEnvironment env (Folder.nearest? ".env" (folder :: outer')) = .ok (ofVariables lookup)

variable {env : Environment} {folders : List Folder}

theorem not_mem_names {name : String} (h : name ∈ names) : '=' ∉ name.toList := by
  revert name
  simp [names]

/-- The settings of an environment that is topped up are those of what is found in it. -/
theorem ofEnvironment_eq (henv : env.IsNullFree)
    (hfile : ∀ content, Folder.IsNearest ".env" folders content → 0 ∉ content.data.toList) :
    ofEnvironment env (Folder.nearest? ".env" folders) = .ok (ofVariables (env.found? folders)) := by
  cases hnearest : Folder.nearest? ".env" folders with
  | none =>
    have hfound : env.found? folders = env.value? := by
      funext name
      rw [Environment.found?, hnearest, Option.bind_none, Option.or_none]
    rw [hfound]
    rfl
  | some content =>
    obtain ⟨env', htop, hvalue⟩ :=
      Environment.topUp_eq henv (hfile content (Folder.nearest?_eq_some_iff.mp hnearest))
    rw [ofEnvironment, htop, Except.map]
    refine congrArg Except.ok (ofVariables_congr fun name hname => ?_)
    rw [hvalue name (not_mem_names hname), Environment.found?, hnearest, Option.bind_some]

/-- The settings of a process are those of one lookup, whatever there is in the environment file. -/
theorem ofEnvironment_isToppedUp (henv : env.IsNullFree)
    (hfile : ∀ content, Folder.IsNearest ".env" folders content → 0 ∉ content.data.toList) :
    IsToppedUp env folders (env.found? folders) where
  settings := ofEnvironment_eq henv hfile
  own name v hv := by rw [Environment.found?, hv, Option.some_or]
  first name hnone content hnearest a ha := by
    rw [Environment.found?, hnone, Option.none_or, Folder.nearest?_eq_some_iff.mpr hnearest,
      Option.bind_some, Dotenv.first?_eq_some ha]
  none name hnone hassigned := by
    rw [Environment.found?, hnone, Option.none_or, Option.bind_eq_none_iff]
    intro content hcontent
    exact Dotenv.first?_eq_none (hassigned content (Folder.nearest?_eq_some_iff.mp hcontent))
  outer folder outer content hfolders hcontent outer' := by
    rw [← ofEnvironment_eq henv hfile, hfolders, Folder.nearest?_cons_of_file hcontent,
      Folder.nearest?_cons_of_file hcontent]

/-- An environment with the broker in a variable of its own, and a host that is no text. -/
def partEnvironment : Environment where
  entries := [Environment.entry "BROKER" "example.org", Environment.head "MQTT_HOST" ++ [255]]

/-- A working folder with a folder in the place of the environment file, in one with a file that sets the
host twice and breaks off before the port. -/
def partFolders : List Folder := [
  [(".env", .folder [])],
  [(".env", .file "MQTT_HOST=$BROKER\nMQTT_HOST=localhost\n?\nMQTT_PORT=1883\n".toUTF8)]]

theorem ofEnvironment_isToppedUp_part :
    IsToppedUp partEnvironment partFolders (partEnvironment.found? partFolders) ∧
      partEnvironment.found? partFolders "BROKER" = some "example.org" ∧
      partEnvironment.found? partFolders "MQTT_HOST" = some "example.org" ∧
      partEnvironment.found? partFolders "MQTT_PORT" = none := by
  refine ⟨ofEnvironment_isToppedUp ?_ ?_, by decide +kernel, by decide +kernel, by decide +kernel⟩
  · unfold Environment.IsNullFree
    decide +kernel
  · intro content hcontent
    rw [← Folder.nearest?_eq_some_iff] at hcontent
    cases hcontent
    decide +kernel

end Settings

end BrokerNode
