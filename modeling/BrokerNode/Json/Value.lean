/-
BrokerNode/Json/Value.lean

Reading JSON values.

The reader of values is told how many lists and objects it may still open, one inside the other, and
refuses to open more; a document may have `maxNesting` of them.  Members of an object are put in
order, and a name that comes again replaces the earlier value.
-/
import BrokerNode.Json.Items
import BrokerNode.Json.NumberLiteral

namespace BrokerNode.Json

/-- How many lists and objects may be open at a time. -/
def maxNesting : Nat := 127

/-- Adds a member to those read so far, with a value that `rd` reads. -/
def addMember (rd : Reader Json) (members : List (String × Json)) (name : String) :
    Except Cause (Reader (List (String × Json))) :=
  .ok (rd.map fun value => insert name value members)

/-- Reads a value.  The values inside a list or an object are read with `inner`; without it none may
be opened. -/
def readValue (inner : Option (Reader Json)) (s : List Char) : Reading Json :=
  match skipBlanks s with
  | [] => .error (.here .endInValue [])
  | c :: r =>
    if c = '[' then
      match inner with
      | none => .error (.next .nestingTooDeep (c :: r))
      | some rd =>
        match elements rd true r with
        | .ok (xs, t) => .ok (.list xs, t)
        | .error e => .error e
    else if c = '{' then
      match inner with
      | none => .error (.next .nestingTooDeep (c :: r))
      | some rd =>
        match members (addMember rd) true [] r with
        | .ok (ms, t) => .ok (.object ms, t)
        | .error e => .error e
    else if c = '"' then
      match StringLiteral.rest.read r with
      | .ok (text, t) => .ok (.string text, t)
      | .error e => .error e
    else if c = 'n' then (word ['u', 'l', 'l'] r).map fun t => (.null, t)
    else if c = 't' then (word ['r', 'u', 'e'] r).map fun t => (.bool true, t)
    else if c = 'f' then (word ['a', 'l', 's', 'e'] r).map fun t => (.bool false, t)
    else if c = '-' ∨ c.isDigit then
      match NumberLiteral.read.read (c :: r) with
      | .ok (n, t) => .ok (.number n, t)
      | .error e => .error e
    else .error (.next .expectedValue (c :: r))

theorem map_word_length_le {α : Type} {w s r : List Char} {a b : α}
    (h : (word w s).map (fun t => (a, t)) = .ok (b, r)) : r.length ≤ s.length := by
  cases hw : word w s with
  | error e => simp [hw, Except.map] at h
  | ok t =>
    simp only [hw, Except.map, Except.ok.injEq, Prod.mk.injEq] at h
    rw [← h.2]
    exact word_length_le hw

theorem readValue_shorter {inner : Option (Reader Json)} {s r : List Char} {v : Json}
    (h : readValue inner s = .ok (v, r)) : r.length < s.length := by
  unfold readValue at h
  split at h
  · cases h
  · next c t ht =>
    have h₁ := skipBlanks_cons_length ht
    split at h
    · split at h
      · cases h
      · split at h
        · next xs u hu => cases h; have := elements_shorter hu; omega
        · cases h
    · split at h
      · split at h
        · cases h
        · split at h
          · next ms u hu => cases h; have := members_shorter hu; omega
          · cases h
      · split at h
        · split at h
          · next text u hu => cases h; have := StringLiteral.rest.shorter hu; omega
          · cases h
        · split at h
          · have := map_word_length_le h; omega
          · split at h
            · have := map_word_length_le h; omega
            · split at h
              · have := map_word_length_le h; omega
              · split at h
                · split at h
                  · next n u hu =>
                    cases h
                    have h₂ := NumberLiteral.read.shorter hu
                    simp only [List.length_cons] at h₂
                    omega
                  · cases h
                · cases h

/-- The reader of values with at most `nesting` lists and objects open at a time. -/
def value : Nat → Reader Json
  | 0 => ⟨readValue none, readValue_shorter⟩
  | nesting + 1 => ⟨readValue (some (value nesting)), readValue_shorter⟩

/-- Reads a value, or `null` as no value. -/
def optional (rd : Reader Json) : Reader (Option Json) where
  read s :=
    match skipBlanks s with
    | 'n' :: r => (word ['u', 'l', 'l'] r).map fun t => (none, t)
    | _ => (rd.map some).read s
  shorter {s v r} h := by
    split at h
    · next t ht =>
      have h₁ := skipBlanks_cons_length ht
      have h₂ := map_word_length_le h
      omega
    · exact (rd.map some).shorter h

/-- Reads a whole document with `rd`: nothing but blanks may follow. -/
def document {α : Type} (rd : Reader α) (text : List Char) : Except LocatedFault α :=
  match rd.read text with
  | .error f => .error (.ofFault text f)
  | .ok (a, r) =>
    match skipBlanks r with
    | [] => .ok a
    | c :: t => .error (.ofFault text (.next .trailingCharacters (c :: t)))

/-- Reads a JSON document. -/
def parse (text : String) : Except LocatedFault Json := document (value maxNesting) text.toList

end BrokerNode.Json
