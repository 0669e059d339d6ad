/-
BrokerNode/Json/Record.lean

Reading records: values with a fixed set of named fields.

A record is written as an object or as a list.  In an object the fields come in any order, members
with other names are passed over, and no field may be given twice.  In a list the fields come in the
order of their declaration, later ones may be missing, and there may be no further elements.  Either
way reading yields the fields that were given, with their names, and a last step builds the value
from them; that step may miss a field, which is a fault behind the closing bracket.
-/
import BrokerNode.Json.Skip
import BrokerNode.Json.Value

namespace BrokerNode.Json

/-- Fields with their names, in the order in which they were given. -/
abbrev Fields (α : Type) := List (String × α)

/-- The two ways in which a record is written. -/
inductive RecordForm where
  | object
  | list
deriving DecidableEq, Repr

/-- A kind of record: what its fields are called, how one is read, and what is built from them. -/
structure RecordShape (α β : Type) where
  title : String
  names : List String
  field : Reader α
  build : RecordForm → Fields α → Except Cause β

namespace RecordShape

variable {α β : Type}

/-- What to do with a member of an object: read a field, pass over any other member, and refuse a
field that was given before. -/
def member (shape : RecordShape α β) (given : Fields α) (name : String) :
    Except Cause (Reader (Fields α)) :=
  if name ∈ shape.names then
    if (given.lookup name).isSome then .error (.duplicateField name)
    else .ok (shape.field.map fun a => given ++ [(name, a)])
  else .ok (skip.map fun _ => given)

/-- Reads the end of a list all of whose fields have been given. -/
def listEnd (s : List Char) : Except Fault (List Char) :=
  match skipBlanks s with
  | [] => .error (.here .endInList [])
  | c :: r =>
    if c = ']' then .ok r
    else if c = ',' then
      match skipBlanks r with
      | [] => .error (.here .trailingCharacters [])
      | d :: t =>
        .error (.next (if d = ']' then .trailingComma else .trailingCharacters) (d :: t))
    else .error (.next .trailingCharacters (c :: r))

/-- Reads fields with the given names, in this order, from the elements of a list up to its end. -/
def inOrder (field : Reader α) : List String → Bool → List Char → Reading (Fields α)
  | [], _, s => (listEnd s).map fun r => ([], r)
  | name :: names, first, s =>
    match nextElement first s with
    | .error e => .error e
    | .ok (false, r) => .ok ([], r)
    | .ok (true, r) =>
      match field.read r with
      | .error e => .error e
      | .ok (a, r') =>
        match inOrder field names false r' with
        | .ok (given, t) => .ok ((name, a) :: given, t)
        | .error e => .error e

theorem listEnd_shorter {s r : List Char} (h : listEnd s = .ok r) : r.length < s.length := by
  unfold listEnd at h
  split at h
  · cases h
  · next c t ht =>
    have h₁ := skipBlanks_cons_length ht
    split at h
    · cases h; exact h₁
    · split at h
      · split at h <;> cases h
      · cases h

theorem inOrder_shorter {field : Reader α} {names : List String} {first : Bool}
    {s r : List Char} {given : Fields α} (h : inOrder field names first s = .ok (given, r)) :
    r.length < s.length := by
  induction names generalizing first s given r with
  | nil =>
    cases he : listEnd s with
    | error e => simp [inOrder, he, Except.map] at h
    | ok t =>
      simp only [inOrder, he, Except.map, Except.ok.injEq, Prod.mk.injEq] at h
      rw [← h.2]
      exact listEnd_shorter he
  | cons name names ih =>
    simp only [inOrder] at h
    split at h
    · cases h
    · next t ht => cases h; exact nextElement_end_shorter ht
    · next t ht =>
      have h₁ := nextElement_length_le ht
      split at h
      · cases h
      · next a u hu =>
        have h₂ := field.shorter hu
        split at h
        · next given' v hv =>
          cases h
          have h₃ := ih hv
          omega
        · cases h

/-- Builds the record from the fields that were given, `rest` being the text behind it. -/
def finish (shape : RecordShape α β) (form : RecordForm) (given : Fields α) (rest : List Char) :
    Reading β :=
  match shape.build form given with
  | .ok b => .ok (b, rest)
  | .error c => .error (.here c rest)

/-- Reads a record. -/
def readRecord (shape : RecordShape α β) (s : List Char) : Reading β :=
  match skipBlanks s with
  | [] => .error (.here .endInValue [])
  | c :: r =>
    if c = '{' then
      match members shape.member true [] r with
      | .ok (given, t) => shape.finish .object given t
      | .error e => .error e
    else if c = '[' then
      match inOrder shape.field shape.names true r with
      | .ok (given, t) => shape.finish .list given t
      | .error e => .error e
    else
      match (value 0).read (c :: r) with
      | .ok (v, t) => .error (.here (.invalidType v shape.title) t)
      | .error e => .error e

theorem rest_of_finish {shape : RecordShape α β} {form : RecordForm} {given : Fields α}
    {s r : List Char} {b : β} (h : shape.finish form given s = .ok (b, r)) : r = s := by
  unfold finish at h
  split at h
  · cases h; rfl
  · cases h

theorem readRecord_shorter {shape : RecordShape α β} {s r : List Char} {b : β}
    (h : shape.readRecord s = .ok (b, r)) : r.length < s.length := by
  unfold readRecord at h
  split at h
  · cases h
  · next c t ht =>
    have h₁ := skipBlanks_cons_length ht
    split at h
    · split at h
      · next given u hu =>
        have h₂ := members_shorter hu
        rw [rest_of_finish h]
        omega
      · cases h
    · split at h
      · split at h
        · next given u hu =>
          have h₂ := inOrder_shorter hu
          rw [rest_of_finish h]
          omega
        · cases h
      · split at h <;> cases h

/-- The reader of a kind of record. -/
def reader (shape : RecordShape α β) : Reader β := ⟨shape.readRecord, readRecord_shorter⟩

end RecordShape

/-- The value of a field that may be absent, or given as absent. -/
def Fields.value? (given : Fields (Option Json)) (name : String) : Option Json :=
  (given.lookup name).join

end BrokerNode.Json
