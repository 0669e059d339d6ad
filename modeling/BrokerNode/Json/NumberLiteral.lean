/-
BrokerNode/Json/NumberLiteral.lean

Numbers in JSON texts: how they are read, what they stand for and how they are written.

A number has an optional minus sign, a whole part without superfluous zeros, an optional fraction
and an optional exponent.  Without fraction and exponent it stands for a whole number if that fits in
64 bits, unsigned, or signed where it is negative.  Everything else stands for a double, minus zero
included.

A double is found with limited precision.  The digits are taken into a significand as long as that
fits in 64 bits; of the others those of the whole part count as powers of ten and those of the
fraction are dropped.  The significand is then scaled by a power of ten, in steps where the power is
beyond the range of doubles, and each step rounds.  A number too great for a double is a fault, one
too small is zero.
-/
import BrokerNode.Json.Reader

namespace BrokerNode.Json

/-- A number as it is written in a text. -/
structure NumberLiteral where
  negative : Bool
  whole : List Char
  fraction : Option (List Char)
  exponent : Option (Bool × List Char)

namespace NumberLiteral

/-! ### The parts of a number

A text that ends too early is a fault of its own where the number is asked for, and just a malformed
number where it is passed over; `atEnd` is the cause to give. -/

/-- The digits at the front of a text and what follows them. -/
def spanDigits (s : List Char) : List Char × List Char :=
  (s.takeWhile Char.isDigit, s.dropWhile Char.isDigit)

theorem spanDigits_length_le (s : List Char) : (spanDigits s).2.length ≤ s.length :=
  (List.dropWhile_sublist Char.isDigit).length_le

/-- Reads the whole part: a zero that no digit follows, or digits that start with another one. -/
def scanWhole (atEnd : Cause) : List Char → Reading (List Char)
  | [] => .error (.here atEnd [])
  | '0' :: s =>
    match s with
    | [] => .ok (['0'], [])
    | d :: r => if d.isDigit then .error (.next .invalidNumber (d :: r)) else .ok (['0'], d :: r)
  | c :: s =>
    if c.isDigit then .ok (c :: (spanDigits s).1, (spanDigits s).2)
    else .error (.next .invalidNumber (c :: s))

/-- Reads the fraction, if there is one: a point and at least one digit. -/
def scanFraction (atEnd : Cause) : List Char → Reading (Option (List Char))
  | '.' :: s =>
    match s with
    | [] => .error (.here atEnd [])
    | d :: r =>
      if d.isDigit then .ok (some (d :: (spanDigits r).1), (spanDigits r).2)
      else .error (.next .invalidNumber (d :: r))
  | s => .ok (none, s)

/-- The sign of an exponent: whether it is a minus, and what follows. -/
def exponentSign : List Char → Bool × List Char
  | '+' :: s => (false, s)
  | '-' :: s => (true, s)
  | s => (false, s)

/-- Reads the exponent, if there is one: the letter, an optional sign and at least one digit. -/
def scanExponent (atEnd : Cause) : List Char → Reading (Option (Bool × List Char))
  | [] => .ok (none, [])
  | c :: s =>
    if c = 'e' ∨ c = 'E' then
      match (exponentSign s).2 with
      | [] => .error (.here atEnd [])
      | d :: r =>
        if d.isDigit then .ok (some ((exponentSign s).1, d :: (spanDigits r).1), (spanDigits r).2)
        else .error (.next .invalidNumber (d :: r))
    else .ok (none, c :: s)

/-- The minus sign of a number, if it has one, and what follows. -/
def sign : List Char → Bool × List Char
  | '-' :: s => (true, s)
  | s => (false, s)

/-- Reads a number, part by part. -/
def scan (atEnd : Cause) (s : List Char) : Except Fault (NumberLiteral × List Char) := do
  let (whole, s₁) ← scanWhole atEnd (sign s).2
  let (fraction, s₂) ← scanFraction atEnd s₁
  let (exponent, s₃) ← scanExponent atEnd s₂
  return (⟨(sign s).1, whole, fraction, exponent⟩, s₃)

theorem sign_length_le (s : List Char) : (sign s).2.length ≤ s.length := by
  unfold sign
  split <;> simp

theorem exponentSign_length_le (s : List Char) : (exponentSign s).2.length ≤ s.length := by
  unfold exponentSign
  split <;> simp

theorem scanWhole_shorter {atEnd : Cause} {s r w : List Char}
    (h : scanWhole atEnd s = .ok (w, r)) : r.length < s.length := by
  unfold scanWhole at h
  split at h
  · cases h
  · split at h
    · cases h; simp
    · split at h
      · cases h
      · cases h; simp
  · next c s' _ =>
    split at h
    · cases h
      have := spanDigits_length_le s'
      simp only [List.length_cons]
      omega
    · cases h

theorem scanFraction_length_le {atEnd : Cause} {s r : List Char} {f : Option (List Char)}
    (h : scanFraction atEnd s = .ok (f, r)) : r.length ≤ s.length := by
  unfold scanFraction at h
  split at h
  · split at h
    · cases h
    · next d t =>
      split at h
      · cases h
        have := spanDigits_length_le t
        simp only [List.length_cons]
        omega
      · cases h
  · cases h
    exact Nat.le_refl _

theorem scanExponent_length_le {atEnd : Cause} {s r : List Char} {e : Option (Bool × List Char)}
    (h : scanExponent atEnd s = .ok (e, r)) : r.length ≤ s.length := by
  unfold scanExponent at h
  split at h
  · cases h; simp
  · next c s' =>
    split at h
    · split at h
      · cases h
      · next d t ht =>
        split at h
        · cases h
          have h₁ := spanDigits_length_le t
          have h₂ := exponentSign_length_le s'
          rw [ht] at h₂
          simp only [List.length_cons] at *
          omega
        · cases h
    · cases h
      exact Nat.le_refl _

theorem scan_shorter {atEnd : Cause} {s r : List Char} {l : NumberLiteral}
    (h : scan atEnd s = .ok (l, r)) : r.length < s.length := by
  simp only [scan, bind, Except.bind] at h
  have h₀ := sign_length_le s
  split at h
  · cases h
  · next p hw =>
    have h₁ := scanWhole_shorter hw
    split at h
    · cases h
    · next q hf =>
      have h₂ := scanFraction_length_le hf
      split at h
      · cases h
      · next t he =>
        have h₃ := scanExponent_length_le he
        cases h
        omega

/-! ### The value of a number -/

/-- The greatest significand: it fits into 64 bits. -/
def maxSignificand : Nat := 18446744073709551615

/-- The greatest exponent that is taken at its value: it fits into 32 bits, with its sign. -/
def maxExponent : Nat := 2147483647

/-- The value of a decimal digit. -/
def digitValue (c : Char) : Nat := c.toNat - 48

/-- Appends digits to a number as long as it does not exceed a limit.  Returns the number and the
digits that were not taken. -/
def takeDigits (limit : Nat) (n : Nat) : List Char → Nat × List Char
  | [] => (n, [])
  | c :: s =>
    if 10 * n + digitValue c ≤ limit then takeDigits limit (10 * n + digitValue c) s
    else (n, c :: s)

/-- A power of ten from the range of doubles. -/
def powerOfTen (n : Nat) : Float := Float.ofScientific 1 false n

/-- A number times a power of ten, or nothing if the product is too great.  Powers beyond the range
of doubles are divided off in steps, each of which rounds. -/
def scale (x : Float) (e : Int) : Option Float :=
  if e.natAbs ≤ 308 then
    if 0 ≤ e then
      let y := x * powerOfTen e.natAbs
      if y.isInf then none else some y
    else some (x / powerOfTen e.natAbs)
  else if x == 0.0 then some x
  else if 0 ≤ e then none
  else scale (x / powerOfTen 308) (e + 308)
termination_by e.natAbs

/-- The sum of two exponents, kept within the range of 32 bits. -/
def addExponents (a b : Int) : Int := max (-2147483648) (min 2147483647 (a + b))

/-- The significand of a number and the power of ten that belongs to it, its exponent aside. -/
def significand (l : NumberLiteral) : Nat × Int :=
  let (n, left) := takeDigits maxSignificand 0 l.whole
  match l.fraction with
  | none => (n, left.length)
  | some f =>
    let (n', dropped) := takeDigits maxSignificand n f
    (n', (left.length : Int) - (f.length - dropped.length : Nat))

/-- The double with the given sign and magnitude. -/
def signed (negative : Bool) (x : Float) : Float := if negative then -x else x

/-- The double that a number stands for; `rest` is the text behind it. -/
def toFloat (l : NumberLiteral) (rest : List Char) : Except Fault Float :=
  let (n, e) := l.significand
  let scaled (e : Int) : Except Fault Float :=
    match scale n.toUInt64.toFloat e with
    | some x => .ok (signed l.negative x)
    | none => .error (.here .numberOutOfRange rest)
  match l.exponent with
  | none => scaled e
  | some (down, ds) =>
    match takeDigits maxExponent 0 ds with
    | (k, []) => scaled (addExponents e (if down then -k else k))
    | (_, _ :: left) =>
      if n ≠ 0 ∧ !down then .error ⟨.numberOutOfRange, left.length + byteLength rest⟩
      else .ok (signed l.negative 0.0)

/-- The whole number that a number without fraction and exponent stands for, if it fits. -/
def toWhole? (l : NumberLiteral) : Option Number :=
  match l.fraction, l.exponent, takeDigits maxSignificand 0 l.whole with
  | none, none, (n, []) =>
    if l.negative && n == 0 then none
    else
      let i : Int := if l.negative then -n else n
      if h : -9223372036854775808 ≤ i ∧ i < 18446744073709551616 then some (.whole i h) else none
  | _, _, _ => none

/-- What a number stands for; `rest` is the text behind it. -/
def value (l : NumberLiteral) (rest : List Char) : Except Fault Number :=
  match l.toWhole? with
  | some n => .ok n
  | none => (l.toFloat rest).map .float

/-- Reads a number. -/
def read : Reader Number where
  read s :=
    match scan .endInValue s with
    | .ok (l, r) =>
      match l.value r with
      | .ok n => .ok (n, r)
      | .error e => .error e
    | .error e => .error e
  shorter {s n r} h := by
    split at h
    · next l r' h' =>
      split at h
      · cases h; exact scan_shorter h'
      · cases h
    · cases h

/-- Passes over a number without asking what it stands for. -/
def pass (s : List Char) : Except Fault (List Char) :=
  match scan .invalidNumber s with
  | .ok (_, r) => .ok r
  | .error e => .error e

end NumberLiteral

/-- The text of a whole number. -/
def writeInt (n : Int) : List Char :=
  if n < 0 then '-' :: Nat.toDigits 10 n.natAbs else Nat.toDigits 10 n.natAbs

/-- The text of a number. -/
def Number.write : Number → List Char
  | .whole n _ => writeInt n
  | .float x => writeFloat x

end BrokerNode.Json
