/-
BrokerNode/Json/StringLiteral.lean

Strings in JSON texts: how they are read and how they are written.

A string ends at the next quote.  Control characters may not stand in it.  After a backslash comes
one of eight letters and marks, or `u` with the number of a character in four hexadecimal digits; a
character beyond the first 65536 takes two such escapes, one for each half of its surrogate pair,
and no half may stand alone.  The four digits are four bytes of the text: if fewer are left the
string has ended too early, and otherwise the fault lies behind those four.

Written, a string has escapes for the quote, the backslash and the control characters only.
-/
import BrokerNode.Json.Reader

namespace BrokerNode.Json.StringLiteral

/-! ### Escapes -/

/-- The value of a hexadecimal digit. -/
def hexDigit? (c : Char) : Option Nat :=
  let n := c.toNat
  if '0' ≤ c && c ≤ '9' then some (n - 48)
  else if 'a' ≤ c && c ≤ 'f' then some (n - 87)
  else if 'A' ≤ c && c ≤ 'F' then some (n - 55)
  else none

/-- The value of four hexadecimal digits. -/
def hexValue? (a b c d : Char) : Option Nat := do
  some (4096 * (← hexDigit? a) + 256 * (← hexDigit? b) + 16 * (← hexDigit? c) + (← hexDigit? d))

/-- The fault of a text that does not start with four hexadecimal digits. -/
def hexFault (s : List Char) : Fault :=
  if byteLength s < 4 then ⟨.endInString, 0⟩ else ⟨.invalidEscape, byteLength s - 4⟩

/-- Reads four hexadecimal digits. -/
def fourHex : Reader Nat where
  read
    | a :: b :: c :: d :: s =>
      match hexValue? a b c d with
      | some n => .ok (n, s)
      | none => .error (hexFault (a :: b :: c :: d :: s))
    | s => .error (hexFault s)
  shorter {s n r} h := by
    split at h
    · split at h
      · cases h; simp; omega
      · cases h
    · cases h

/-- Whether a number is the first half of a surrogate pair. -/
def isHighSurrogate (n : Nat) : Bool := 0xD800 ≤ n && n ≤ 0xDBFF

/-- Whether a number is the second half of a surrogate pair. -/
def isLowSurrogate (n : Nat) : Bool := 0xDC00 ≤ n && n ≤ 0xDFFF

/-- The character of a surrogate pair. -/
def ofPair (high low : Nat) : Char := Char.ofNat (0x10000 + 1024 * (high - 0xD800) + (low - 0xDC00))

/-- Reads what follows the first half of a surrogate pair: the escape for the second half. -/
def lowHalf (high : Nat) (s : List Char) : Reading Char :=
  match s with
  | [] => .error (.here .endInString [])
  | '\\' :: [] => .error (.here .endInString [])
  | '\\' :: 'u' :: r =>
    match fourHex.read r with
    | .ok (low, r') =>
      if isLowSurrogate low then .ok (ofPair high low, r') else .error (.here .loneSurrogate r')
    | .error e => .error e
  | '\\' :: r => .error (.next .unexpectedEndOfEscape r)
  | r => .error (.next .unexpectedEndOfEscape r)

/-- Reads the digits of an escape by number, and a second escape where the first stands for half a
pair. -/
def byNumber (s : List Char) : Reading Char :=
  match fourHex.read s with
  | .ok (n, r) =>
    if isLowSurrogate n then .error (.here .loneSurrogate r)
    else if isHighSurrogate n then lowHalf n r
    else .ok (Char.ofNat n, r)
  | .error e => .error e

/-- The character that a letter or mark after the backslash stands for. -/
def shortEscape? : Char → Option Char
  | '"' => some '"'
  | '\\' => some '\\'
  | '/' => some '/'
  | 'b' => some '\x08'
  | 'f' => some '\x0c'
  | 'n' => some '\n'
  | 'r' => some '\r'
  | 't' => some '\t'
  | _ => none

theorem lowHalf_shorter {high : Nat} {s r : List Char} {c : Char}
    (h : lowHalf high s = .ok (c, r)) : r.length < s.length := by
  unfold lowHalf at h
  split at h
  · cases h
  · cases h
  · split at h
    · next low r' h' =>
      split at h
      · simp only [Except.ok.injEq, Prod.mk.injEq] at h
        have := fourHex.shorter h'
        rw [← h.2]
        simp only [List.length_cons]
        omega
      · cases h
    · cases h
  · cases h
  · cases h

theorem byNumber_shorter {s r : List Char} {c : Char} (h : byNumber s = .ok (c, r)) :
    r.length < s.length := by
  unfold byNumber at h
  split at h
  · next n r' h' =>
    have := fourHex.shorter h'
    split at h
    · cases h
    · split at h
      · have := lowHalf_shorter h
        omega
      · cases h
        exact this
  · cases h

/-- Reads an escape, behind its backslash. -/
def escape : Reader Char where
  read
    | [] => .error (.here .endInString [])
    | 'u' :: s => byNumber s
    | c :: s =>
      match shortEscape? c with
      | some d => .ok (d, s)
      | none => .error (.next .invalidEscape (c :: s))
  shorter {s c r} h := by
    split at h
    · cases h
    · have := byNumber_shorter h
      simp; omega
    · split at h
      · cases h; simp
      · cases h

/-! ### Reading -/

/-- Whether a character may not stand in a string. -/
def isControl (c : Char) : Bool := c.toNat < 0x20

/-- Reads the characters of a string up to its closing quote, behind the opening one. -/
def characters (s : List Char) : Reading (List Char) :=
  match s with
  | [] => .error (.here .endInString [])
  | '"' :: r => .ok ([], r)
  | '\\' :: r =>
    match _h : escape.read r with
    | .ok (c, r') =>
      match characters r' with
      | .ok (cs, t) => .ok (c :: cs, t)
      | .error e => .error e
    | .error e => .error e
  | c :: r =>
    if isControl c then .error (.here .controlCharacter r)
    else
      match characters r with
      | .ok (cs, t) => .ok (c :: cs, t)
      | .error e => .error e
termination_by s.length
decreasing_by
  · have := escape.shorter _h
    simp; omega
  · simp

theorem characters_shorter {s r cs : List Char} (h : characters s = .ok (cs, r)) :
    r.length < s.length := by
  fun_induction characters s generalizing cs r with
  | case1 => cases h
  | case2 => cases h; simp
  | case3 s c s' hc ds t hs ih =>
    cases h
    have := escape.shorter hc
    have := ih hs
    simp only [List.length_cons]
    omega
  | case4 => cases h
  | case5 => cases h
  | case6 => cases h
  | case7 c s _ _ _ ds t hs ih =>
    cases h
    have := ih hs
    simp only [List.length_cons]
    omega
  | case8 => cases h

/-- Reads the rest of a string, behind its opening quote. -/
def rest : Reader String where
  read s :=
    match characters s with
    | .ok (cs, r) => .ok (String.ofList cs, r)
    | .error e => .error e
  shorter {s t r} h := by
    split at h
    · next cs r' h' => cases h; exact characters_shorter h'
    · cases h

/-! ### Passing over a string

A member that nobody asks for is checked less strictly: its escapes by number need not name
characters, and a control character is a fault in front of it. -/

/-- Passes over an escape, behind its backslash. -/
def passEscape : List Char → Except Fault (List Char)
  | [] => .error (.here .endInString [])
  | 'u' :: s =>
    match fourHex.read s with
    | .ok (_, r) => .ok r
    | .error e => .error e
  | c :: s =>
    match shortEscape? c with
    | some _ => .ok s
    | none => .error (.next .invalidEscape (c :: s))

theorem passEscape_shorter {s r : List Char} (h : passEscape s = .ok r) :
    r.length < s.length := by
  unfold passEscape at h
  split at h
  · cases h
  · split at h
    · next n r' h' =>
      cases h
      have := fourHex.shorter h'
      simp; omega
    · cases h
  · split at h
    · cases h; simp
    · cases h

/-- Passes over the characters of a string and its closing quote. -/
def pass (s : List Char) : Except Fault (List Char) :=
  match s with
  | [] => .error (.here .endInString [])
  | '"' :: r => .ok r
  | '\\' :: r =>
    match _h : passEscape r with
    | .ok r' => pass r'
    | .error e => .error e
  | c :: r => if isControl c then .error (.here .controlCharacter (c :: r)) else pass r
termination_by s.length
decreasing_by
  · have := passEscape_shorter _h
    simp; omega
  · simp

theorem pass_shorter {s r : List Char} (h : pass s = .ok r) : r.length < s.length := by
  fun_induction pass s generalizing r with
  | case1 => cases h
  | case2 => cases h; simp
  | case3 s s' hs ih =>
    have := passEscape_shorter hs
    have := ih h
    simp only [List.length_cons]
    omega
  | case4 => cases h
  | case5 => cases h
  | case6 c s _ _ _ ih =>
    have := ih h
    simp only [List.length_cons]
    omega

/-! ### Writing -/

/-- A character as it is written inside a string. -/
def writeChar (c : Char) : List Char :=
  match c with
  | '"' => ['\\', '"']
  | '\\' => ['\\', '\\']
  | '\x08' => ['\\', 'b']
  | '\x0c' => ['\\', 'f']
  | '\n' => ['\\', 'n']
  | '\r' => ['\\', 'r']
  | '\t' => ['\\', 't']
  | c =>
    if isControl c then
      ['\\', 'u', '0', '0', Nat.digitChar (c.toNat / 16), Nat.digitChar (c.toNat % 16)]
    else [c]

/-- A string between its quotes. -/
def write (s : String) : List Char := '"' :: (s.toList.flatMap writeChar ++ ['"'])

end BrokerNode.Json.StringLiteral
