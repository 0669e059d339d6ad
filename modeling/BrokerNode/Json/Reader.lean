/-
BrokerNode/Json/Reader.lean

Readers: functions that take something off the front of a text.

A reader returns what it read together with the text that is left, or a fault.  The text that is
left is always shorter than the text that was given, and the proof of it is part of the reader; this
is what ends the loops over lists and objects.

Main statements: `skipBlanks_length_le` and `word_length_le` bound what the two scanners leave.
-/
import BrokerNode.Json.Fault

namespace BrokerNode.Json

/-- What reading returns: a value and the text behind it, or a fault. -/
abbrev Reading (α : Type) := Except Fault (α × List Char)

/-- A way to take an `α` off the front of a text. -/
structure Reader (α : Type) where
  read : List Char → Reading α
  shorter : ∀ {s : List Char} {a : α} {r : List Char}, read s = .ok (a, r) → r.length < s.length

namespace Reader

/-- Reads with `rd` and applies a function to the value. -/
def map {α β : Type} (f : α → β) (rd : Reader α) : Reader β where
  read s :=
    match rd.read s with
    | .ok (a, r) => .ok (f a, r)
    | .error e => .error e
  shorter {s b r} h := by
    split at h
    · next a r' h' => cases h; exact rd.shorter h'
    · cases h

theorem read_map {α β : Type} {f : α → β} {rd : Reader α} {s r : List Char} {b : β} :
    (rd.map f).read s = .ok (b, r) ↔ ∃ a, rd.read s = .ok (a, r) ∧ f a = b := by
  simp only [map]
  split
  · next a r' h => simp [h]; grind
  · next h => simp [h]

end Reader

/-! ### Blanks and words -/

/-- The blanks that may stand between the parts of a JSON text. -/
def isBlank (c : Char) : Bool := c == ' ' || c == '\n' || c == '\t' || c == '\r'

/-- The text from its first character that is not blank. -/
def skipBlanks (s : List Char) : List Char := s.dropWhile isBlank

theorem skipBlanks_length_le (s : List Char) : (skipBlanks s).length ≤ s.length :=
  (List.dropWhile_sublist isBlank).length_le

/-- Takes the given characters off, one by one; the first other character is a fault behind its
first byte. -/
def word : List Char → List Char → Except Fault (List Char)
  | [], s => .ok s
  | _ :: _, [] => .error (.here .endInValue [])
  | e :: es, c :: s => if c = e then word es s else .error (.next .expectedIdent (c :: s))

theorem word_append (w s : List Char) : word w (w ++ s) = .ok s := by
  induction w with
  | nil => rfl
  | cons c w ih => simp [word, ih]

theorem word_eq_ok_iff {w s r : List Char} : word w s = .ok r ↔ s = w ++ r := by
  constructor
  · intro h
    induction w generalizing s with
    | nil => simpa [word] using h
    | cons e es ih =>
      cases s with
      | nil => simp [word] at h
      | cons c s =>
        simp only [word] at h
        split at h
        · next hc => rw [hc, ih h]; rfl
        · cases h
  · rintro rfl
    exact word_append w r

theorem word_length_le {w s r : List Char} (h : word w s = .ok r) : r.length ≤ s.length := by
  rw [word_eq_ok_iff] at h
  simp [h]

end BrokerNode.Json
