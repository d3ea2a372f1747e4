import LinkGate.Json
import LinkGate.Manifest.Token

/-!
# Strings in JSON texts

Between quotes a character stands as it is, behind a backslash as a letter, or behind a backslash and the
letter u as the hexadecimal digits of its code units. `Escaped` is this rule. All spellings of a string are
read as the string, whatever follows the closing quote, and quoting a string gives one of its spellings.
-/

namespace LinkGate.Json

open Manifest

/-! ## Spellings -/

inductive HexUnit : Nat → List Char → Prop where
  | digits {a b c d : Char} {v w x y : Nat} (first : hexDigit? a = some v)
      (second : hexDigit? b = some w) (third : hexDigit? c = some x) (fourth : hexDigit? d = some y) :
      HexUnit (((v * 16 + w) * 16 + x) * 16 + y) [a, b, c, d]

def escapeLetter? : Char → Option Char
  | '"' => some '"'
  | '\\' => some '\\'
  | '/' => some '/'
  | 'b' => some '\x08'
  | 'f' => some '\x0c'
  | 'n' => some '\n'
  | 'r' => some '\r'
  | 't' => some '\t'
  | _ => none

/-- How a character may stand between quotes. -/
inductive Escaped : Char → List Char → Prop where
  | plain {c : Char} (printable : 0x20 ≤ c.toNat) (noQuote : c ≠ '"') (noBackslash : c ≠ '\\') :
      Escaped c [c]
  | letter {c letter : Char} (stands : escapeLetter? letter = some c) : Escaped c ['\\', letter]
  | unit {c : Char} {digits : List Char} (number : HexUnit c.toNat digits) :
      Escaped c ('\\' :: 'u' :: digits)
  /-- A character beyond the first 0x10000 has two code units. -/
  | pair {c : Char} {high low : Nat} {digits others : List Char} (first : HexUnit high digits)
      (second : HexUnit low others) (isHigh : 0xD800 ≤ high ∧ high ≤ 0xDBFF)
      (isLow : 0xDC00 ≤ low ∧ low ≤ 0xDFFF)
      (number : c.toNat = 0x10000 + (high - 0xD800) * 0x400 + (low - 0xDC00)) :
      Escaped c ('\\' :: 'u' :: digits ++ '\\' :: 'u' :: others)

/-- How a row of characters may stand between quotes. -/
inductive Written : List Char → List Char → Prop where
  | nil : Written [] []
  | cons {c : Char} {s piece text : List Char} (first : Escaped c piece) (rest : Written s text) :
      Written (c :: s) (piece ++ text)

/-! ## Reading -/

theorem length_le_byteCount (s : List Char) : s.length ≤ byteCount s := by
  have counted (n : Nat) : n + s.length ≤ s.foldl (fun n c => n + c.utf8Size) n := by
    induction s generalizing n with
    | nil => exact Nat.le_refl n
    | cons c rest ih =>
        have one : 1 ≤ c.utf8Size := c.utf8Size_pos
        have further := ih (n + c.utf8Size)
        rw [List.length_cons, List.foldl_cons]
        omega
  have whole := counted 0
  rwa [Nat.zero_add] at whole

theorem hexUnit_of_hexUnit {value : Nat} {digits : List Char} (written : HexUnit value digits)
    (rest : List Char) : hexUnit (digits ++ rest) = .ok (value, rest) := by
  cases written with
  | @digits a b c d v w x y first second third fourth =>
      have long : ¬ byteCount (a :: b :: c :: d :: rest) < 4 := by
        have enough := length_le_byteCount (a :: b :: c :: d :: rest)
        simp only [List.length_cons] at enough
        omega
      change hexUnit (a :: b :: c :: d :: rest) = _
      rw [hexUnit, if_neg long]
      simp only [first, second, third, fourth]

theorem escape_of_escaped_letter {c letter : Char} (stands : escapeLetter? letter = some c)
    (rest : List Char) : Manifest.escape (letter :: rest) = .ok (c, rest) := by
  unfold escapeLetter? at stands
  split at stands <;> simp only [Option.some.injEq, reduceCtorEq] at stands <;> subst stands <;> rfl

theorem toNat_not_surrogate (c : Char) : ¬ (0xD800 ≤ c.toNat ∧ c.toNat ≤ 0xDFFF) := by
  have valid := c.valid
  simp only [UInt32.isValidChar, Nat.isValidChar] at valid
  have number : c.toNat = c.val.toNat := rfl
  omega

/-- The spelling of a character is read as the character. -/
theorem hexChar_of_unit {c : Char} {digits : List Char} (number : HexUnit c.toNat digits)
    (rest : List Char) : hexChar (digits ++ rest) = .ok (c, rest) := by
  have outside := toNat_not_surrogate c
  rw [hexChar, hexUnit_of_hexUnit number rest]
  simp only [bind, Except.bind]
  rw [if_neg (by omega), if_pos (by omega), Char.ofNat_toNat]

theorem hexChar_of_pair {c : Char} {high low : Nat} {digits others : List Char}
    (first : HexUnit high digits) (second : HexUnit low others)
    (isHigh : 0xD800 ≤ high ∧ high ≤ 0xDBFF) (isLow : 0xDC00 ≤ low ∧ low ≤ 0xDFFF)
    (number : c.toNat = 0x10000 + (high - 0xD800) * 0x400 + (low - 0xDC00)) (rest : List Char) :
    hexChar (digits ++ '\\' :: 'u' :: (others ++ rest)) = .ok (c, rest) := by
  rw [hexChar, hexUnit_of_hexUnit first]
  simp only [bind, Except.bind]
  rw [if_neg (by omega), if_neg (by omega)]
  simp only [pairMark, if_true, hexUnit_of_hexUnit second]
  rw [if_pos isLow, ← number, Char.ofNat_toNat]

theorem string_backslash {c : Char} {s after : List Char} (escaped : Manifest.escape s = .ok (c, after)) :
    Manifest.string ('\\' :: s) = (Manifest.string after).map fun (cs, left) => (c :: cs, left) := by
  rw [Manifest.string]
  split
  · next failed => simp [escaped] at failed
  · next found =>
      rw [escaped, Except.ok.injEq, Prod.mk.injEq] at found
      obtain ⟨rfl, rfl⟩ := found
      rfl

theorem string_append_of_escaped {c : Char} {piece : List Char} (escaped : Escaped c piece)
    (text : List Char) :
    Manifest.string (piece ++ text) = (Manifest.string text).map fun (cs, left) => (c :: cs, left) := by
  cases escaped with
  | plain printable noQuote noBackslash =>
      rw [List.singleton_append, Manifest.string, if_neg (by omega)]
      · exact noQuote
      · exact noBackslash
  | letter stands => exact string_backslash (escape_of_escaped_letter stands text)
  | unit number => exact string_backslash (hexChar_of_unit number text)
  | pair first second isHigh isLow number =>
      rw [List.append_assoc]
      exact string_backslash (hexChar_of_pair first second isHigh isLow number text)

/-- A string is read from any of its spellings, up to the closing quote. -/
theorem string_of_written {s text : List Char} (written : Written s text) (rest : List Char) :
    Manifest.string (text ++ '"' :: rest) = .ok (s, rest) := by
  induction written with
  | nil => rw [List.nil_append, Manifest.string]
  | cons first _ ih =>
      rw [List.append_assoc, string_append_of_escaped first, ih]
      rfl

/-! ## Quoting -/

theorem hexUnit_control {n : Nat} (control : n < 0x20) :
    HexUnit n ['0', '0', Nat.digitChar (n / 16), Nat.digitChar (n % 16)] := by
  have digit : ∀ d, d < 16 → hexDigit? (Nat.digitChar d) = some d := by decide
  have zero : hexDigit? '0' = some 0 := by decide
  have unit := HexUnit.digits zero zero (digit (n / 16) (by omega)) (digit (n % 16) (by omega))
  rwa [show ((0 * 16 + 0) * 16 + n / 16) * 16 + n % 16 = n by omega] at unit

theorem escaped_escape (c : Char) : Escaped c (Json.escape c) := by
  unfold Json.escape
  split
  case h_8 noQuote noBackslash _ _ _ _ _ =>
    split
    · next control => exact .unit (hexUnit_control control)
    · next printable => exact .plain (Nat.le_of_not_lt printable) noQuote noBackslash
  all_goals exact .letter rfl

theorem written_flatMap_escape (s : List Char) : Written s (s.flatMap Json.escape) := by
  induction s with
  | nil => exact .nil
  | cons c rest ih => exact .cons (escaped_escape c) ih

end LinkGate.Json
