/-
BrokerNode/Proofs/Json/StringText.lean

Strings read back from the text they are written as.

The text is taken apart character by character: what one character is written as, reading takes off
as that character (`characters_writeChar`), whatever follows.  The whole string is then one induction,
and `rest_write` says that a written string is read back and what follows it is left.
-/
import BrokerNode.Json.StringLiteral

namespace BrokerNode.Json.StringLiteral

/-- The hexadecimal digits that are written are read as their values. -/
theorem hexDigit?_digitChar : ∀ n < 16, hexDigit? (Nat.digitChar n) = some n := by decide

/-- The four digits written for a control character are read as its number. -/
theorem hexValue?_control {n : Nat} (h : n < 0x20) :
    hexValue? '0' '0' (Nat.digitChar (n / 16)) (Nat.digitChar (n % 16)) = some n := by
  have h₀ : hexDigit? '0' = some 0 := by decide
  have h₁ := hexDigit?_digitChar (n / 16) (by omega)
  have h₂ := hexDigit?_digitChar (n % 16) (by omega)
  simp only [hexValue?, h₀, h₁, h₂, Option.bind_eq_bind, Option.bind_some, Option.some.injEq]
  omega

/-- A control character is read back from the escape by its number. -/
theorem escape_control {c : Char} (h : isControl c = true) (s : List Char) :
    escape.read ('u' :: '0' :: '0' :: Nat.digitChar (c.toNat / 16) ::
      Nat.digitChar (c.toNat % 16) :: s) = .ok (c, s) := by
  have hn : c.toNat < 0x20 := by simpa [isControl] using h
  -- a number this small is no surrogate, so it stands for a character by itself
  have hlow : isLowSurrogate c.toNat = false := by simp [isLowSurrogate]; omega
  have hhigh : isHighSurrogate c.toNat = false := by simp [isHighSurrogate]; omega
  show byNumber _ = _
  simp [byNumber, fourHex, hexValue?_control hn, hlow, hhigh]

/-- An escape at the front of a text is taken off as the character that it stands for. -/
theorem characters_escape {e s : List Char} {c : Char} (h : escape.read (e ++ s) = .ok (c, s)) :
    characters ('\\' :: (e ++ s)) = (characters s).map fun p => (c :: p.1, p.2) := by
  rw [characters]
  split
  · next d r hd =>
    rw [h] at hd
    cases hd
    cases characters s <;> rfl
  · next e' he =>
    rw [h] at he
    cases he

/-- A character that needs no escape is taken off as it is. -/
theorem characters_cons {c : Char} (hquote : c ≠ '"') (hslash : c ≠ '\\')
    (hcontrol : isControl c = false) (s : List Char) :
    characters (c :: s) = (characters s).map fun p => (c :: p.1, p.2) := by
  rw [characters]
  · rw [hcontrol]
    cases characters s <;> rfl
  · exact hquote
  · exact hslash

/-- What a character is written as is taken off as that character. -/
theorem characters_writeChar (c : Char) (s : List Char) :
    characters (writeChar c ++ s) = (characters s).map fun p => (c :: p.1, p.2) := by
  unfold writeChar
  -- seven characters have an escape of one letter, other control characters one by number
  split
  · exact characters_escape (e := ['"']) rfl
  · exact characters_escape (e := ['\\']) rfl
  · exact characters_escape (e := ['b']) rfl
  · exact characters_escape (e := ['f']) rfl
  · exact characters_escape (e := ['n']) rfl
  · exact characters_escape (e := ['r']) rfl
  · exact characters_escape (e := ['t']) rfl
  · next hquote hslash _ _ _ _ _ =>
    split
    · next hcontrol =>
      exact characters_escape (e := ['u', '0', '0', _, _]) (escape_control hcontrol s)
    · next hcontrol =>
      exact characters_cons hquote hslash (by simpa using hcontrol) s

/-- The characters of a string are read back up to its closing quote. -/
theorem characters_write (cs r : List Char) :
    characters (cs.flatMap writeChar ++ '"' :: r) = .ok (cs, r) := by
  induction cs with
  | nil =>
    show characters ('"' :: r) = _
    rw [characters]
  | cons c cs ih =>
    rw [List.flatMap_cons, List.append_assoc, characters_writeChar, ih]
    rfl

/-- A string is read back, behind its opening quote, from the text it is written as. -/
theorem rest_write (s : String) (r : List Char) :
    rest.read (s.toList.flatMap writeChar ++ '"' :: r) = .ok (s, r) := by
  simp only [rest, characters_write, String.ofList_toList]

/-- The text of a string, with what follows it, opens with a quote. -/
theorem write_append (s : String) (r : List Char) :
    write s ++ r = '"' :: (s.toList.flatMap writeChar ++ '"' :: r) := by
  simp [write]

end BrokerNode.Json.StringLiteral
