import LinkGate.Decimal
import LinkGate.Manifest.Fault

/-!
# Values in a list of documents

Strings, numbers and words are read from what is left of a text, and give what is left after them. A
value that means nothing is skipped, whatever it holds.
-/

namespace LinkGate.Manifest

def isBlank (c : Char) : Bool :=
  c == ' ' || c == '\n' || c == '\t' || c == '\r'

def skipBlanks (s : List Char) : List Char :=
  s.dropWhile isBlank

/-! ## Strings -/

def hexDigit? (c : Char) : Option Nat :=
  if c.isDigit then some (c.toNat - '0'.toNat)
  else if 'a' ≤ c && c ≤ 'f' then some (c.toNat - 'a'.toNat + 10)
  else if 'A' ≤ c && c ≤ 'F' then some (c.toNat - 'A'.toNat + 10)
  else none

/-- Four hexadecimal digits. The bytes of four digits are taken in any case. -/
def hexUnit (s : List Char) : Except Fault (Nat × List Char) :=
  if byteCount s < 4 then .error (.here .endInString [])
  else
    match s with
    | a :: b :: c :: d :: rest =>
      match hexDigit? a, hexDigit? b, hexDigit? c, hexDigit? d with
      | some a, some b, some c, some d => .ok (((a * 16 + b) * 16 + c) * 16 + d, rest)
      | _, _, _, _ => .error ⟨.invalidEscape, s, 4⟩
    | _ => .error ⟨.invalidEscape, s, 4⟩

def pairMark (c : Char) : List Char → Except Fault (List Char)
  | [] => .error (.here .endInString [])
  | d :: rest => if d = c then .ok rest else .error ⟨.missingSurrogate, d :: rest, 1⟩

/-- The character of a code unit; a unit of the first half of a pair needs its second half. -/
def hexChar (s : List Char) : Except Fault (Char × List Char) := do
  let (high, rest) ← hexUnit s
  if 0xDC00 ≤ high ∧ high ≤ 0xDFFF then .error (.here .loneSurrogate rest)
  else if high < 0xD800 ∨ 0xDBFF < high then .ok (Char.ofNat high, rest)
  else
    let rest ← pairMark '\\' rest
    let rest ← pairMark 'u' rest
    let (low, rest) ← hexUnit rest
    if 0xDC00 ≤ low ∧ low ≤ 0xDFFF then
      .ok (Char.ofNat (0x10000 + (high - 0xD800) * 0x400 + (low - 0xDC00)), rest)
    else .error (.here .loneSurrogate rest)

def escape : List Char → Except Fault (Char × List Char)
  | [] => .error (.here .endInString [])
  | '"' :: rest => .ok ('"', rest)
  | '\\' :: rest => .ok ('\\', rest)
  | '/' :: rest => .ok ('/', rest)
  | 'b' :: rest => .ok ('\x08', rest)
  | 'f' :: rest => .ok ('\x0c', rest)
  | 'n' :: rest => .ok ('\n', rest)
  | 'r' :: rest => .ok ('\r', rest)
  | 't' :: rest => .ok ('\t', rest)
  | 'u' :: rest => hexChar rest
  | c :: rest => .error ⟨.invalidEscape, c :: rest, 1⟩

theorem hexUnit_length {s rest : List Char} {n : Nat} (h : hexUnit s = .ok (n, rest)) :
    rest.length < s.length := by
  unfold hexUnit at h
  split at h
  · simp at h
  · split at h
    · split at h
      · simp only [Except.ok.injEq, Prod.mk.injEq] at h
        obtain ⟨-, rfl⟩ := h
        simp only [List.length_cons]
        omega
      · simp at h
    · simp at h

theorem pairMark_length {c : Char} {s rest : List Char} (h : pairMark c s = .ok rest) :
    rest.length < s.length := by
  cases s with
  | nil => simp [pairMark] at h
  | cons d after =>
    simp only [pairMark] at h
    split at h
    · simp only [Except.ok.injEq] at h
      simp [← h]
    · simp at h

theorem hexChar_length {s rest : List Char} {c : Char} (h : hexChar s = .ok (c, rest)) :
    rest.length < s.length := by
  unfold hexChar at h
  simp only [bind, Except.bind] at h
  split at h
  · simp at h
  · next first hfirst =>
    obtain ⟨high, after⟩ := first
    have h₁ := hexUnit_length hfirst
    simp only at h
    split at h
    · simp at h
    · split at h
      · simp only [Except.ok.injEq, Prod.mk.injEq] at h
        obtain ⟨-, rfl⟩ := h
        exact h₁
      · split at h
        · simp at h
        · next hmark =>
          have h₂ := pairMark_length hmark
          split at h
          · simp at h
          · next hmark =>
            have h₃ := pairMark_length hmark
            split at h
            · simp at h
            · next second hsecond =>
              obtain ⟨low, final⟩ := second
              have h₄ := hexUnit_length hsecond
              simp only at h
              split at h
              · simp only [Except.ok.injEq, Prod.mk.injEq] at h
                obtain ⟨-, rfl⟩ := h
                omega
              · simp at h

theorem escape_length {s rest : List Char} {c : Char} (h : escape s = .ok (c, rest)) :
    rest.length < s.length := by
  unfold escape at h
  split at h
  case h_10 =>
    have := hexChar_length h
    simp only [List.length_cons]
    omega
  all_goals cases h
  all_goals simp

def string (s : List Char) : Except Fault (List Char × List Char) :=
  match s with
  | [] => .error (.here .endInString [])
  | '"' :: rest => .ok ([], rest)
  | '\\' :: rest =>
    match _h : escape rest with
    | .error f => .error f
    | .ok (c, after) => (string after).map fun (cs, left) => (c :: cs, left)
  | c :: rest =>
    if c.toNat < 0x20 then .error (.here .controlCharacter rest)
    else (string rest).map fun (cs, left) => (c :: cs, left)
termination_by s.length
decreasing_by
  · have := escape_length _h
    simp only [List.length_cons]
    omega
  · simp

/-- What is left after a string whose characters do not matter. Escapes have to be well formed, but
code units need not form characters. -/
def skipString : (fuel : Nat) → List Char → Except Fault (List Char)
  | _, [] => .error (.here .endInString [])
  | 0, s => .ok s
  | fuel + 1, c :: rest =>
    if c = '"' then .ok rest
    else if c = '\\' then
      match rest with
      | 'u' :: digits => do
        let (_, rest) ← hexUnit digits
        skipString fuel rest
      | _ => do
        let (_, rest) ← escape rest
        skipString fuel rest
    else if c.toNat < 0x20 then .error (.here .controlCharacter rest)
    else skipString fuel rest

/-! ## Words -/

def word : (letters : List Char) → List Char → Except Fault (List Char)
  | [], s => .ok s
  | _ :: _, [] => .error (.here .endInValue [])
  | letter :: letters, c :: rest =>
    if c = letter then word letters rest else .error ⟨.expectedWord, c :: rest, 1⟩

/-! ## Numbers -/

/-- The greatest number that is kept exactly. -/
def exactLimit : Nat := 0xFFFFFFFFFFFFFFFF

/-- The digits that fit a number which is kept exactly, that number, and what is left. -/
def exactDigits (value : Nat) : List Char → Nat × Nat × List Char
  | [] => (value, 0, [])
  | c :: rest =>
    if c.isDigit && value * 10 + (c.toNat - '0'.toNat) ≤ exactLimit then
      let (total, count, left) := exactDigits (value * 10 + (c.toNat - '0'.toNat)) rest
      (total, count + 1, left)
    else (value, 0, c :: rest)

/-- `significand * 10 ^ exponent`, computed with one rounding for each step of at most 308 places. -/
def scale (significand : Nat) (exponent : Int) (rest : List Char) : Except Fault (Float × List Char) :=
  let start := Float.ofNat significand
  if 308 < exponent then
    if start == 0 then .ok (start, rest) else .error (.here .numberOutOfRange rest)
  else if 0 ≤ exponent then
    let value := start * Float.ofNat (Nat.pow 10 exponent.toNat)
    if value.isInf then .error (.here .numberOutOfRange rest) else .ok (value, rest)
  else
    let whole := ((-exponent).toNat - 1) / 308
    let left := (-exponent).toNat - 308 * whole
    let lowered := (List.range (min whole 3)).foldl (fun x _ => x / 1e308) start
    .ok (lowered / Float.ofNat (Nat.pow 10 left), rest)

def exponentPart (significand : Nat) (base : Int) (s : List Char) :
    Except Fault (Float × List Char) :=
  let (isPositive, s) := match s with
    | '+' :: rest => (true, rest)
    | '-' :: rest => (false, rest)
    | _ => (true, s)
  match s with
  | [] => .error (.here .endInValue [])
  | c :: _ =>
    if c.isDigit then
      let digits := s.takeWhile Char.isDigit
      let rest := s.drop digits.length
      let limit := 0x7FFFFFFF
      let value := digits.foldl (fun n d => n * 10 + (d.toNat - '0'.toNat)) 0
      if limit < value then
        if significand ≠ 0 ∧ isPositive then
          let kept := (List.range digits.length).find? fun n =>
            limit < (digits.take (n + 1)).foldl (fun n d => n * 10 + (d.toNat - '0'.toNat)) 0
          .error (.here .numberOutOfRange (s.drop (kept.getD 0 + 1)))
        else .ok (0, rest)
      else scale significand (if isPositive then base + value else base - value) rest
    else .error ⟨.invalidNumber, s, 1⟩

def afterFraction (significand : Nat) (exponent : Int) (s : List Char) :
    Except Fault (Float × List Char) :=
  match s with
  | 'e' :: rest => exponentPart significand exponent rest
  | 'E' :: rest => exponentPart significand exponent rest
  | _ => scale significand exponent s

/-- The digits after a point. Digits that do not fit are left out. -/
def fractionPart (significand : Nat) (exponent : Int) (s : List Char) :
    Except Fault (Float × List Char) :=
  let (value, count, rest) := exactDigits significand s
  match rest with
  | [] => if count = 0 then .error (.here .endInValue []) else scale value (exponent - count) []
  | c :: _ =>
    if c.isDigit then afterFraction value (exponent - count) (rest.dropWhile Char.isDigit)
    else if count = 0 then .error (.atNext .invalidNumber rest)
    else afterFraction value (exponent - count) rest

def number (isPositive : Bool) (s : List Char) : Except Fault (Found × List Char) :=
  let floating (r : Except Fault (Float × List Char)) : Except Fault (Found × List Char) :=
    r.map fun (x, rest) => (.floatingPoint (Decimal.text (if isPositive then x else -x)), rest)
  let finish (value : Nat) (rest : List Char) : Except Fault (Found × List Char) :=
    match rest with
    | '.' :: rest => floating (fractionPart value 0 rest)
    | 'e' :: rest => floating (exponentPart value 0 rest)
    | 'E' :: rest => floating (exponentPart value 0 rest)
    | _ =>
      if isPositive then .ok (.integer (toString value), rest)
      else if value = 0 ∨ 0x8000000000000000 < value then
        .ok (.floatingPoint (Decimal.text (-(Float.ofNat value))), rest)
      else .ok (.integer ("-" ++ toString value), rest)
  match s with
  | [] => .error (.here .endInValue [])
  | '0' :: rest =>
    if rest.head?.any Char.isDigit then .error (.atNext .invalidNumber rest) else finish 0 rest
  | c :: _ =>
    if c.isDigit then
      let (value, _, rest) := exactDigits 0 s
      if rest.head?.any Char.isDigit then
        let more := rest.takeWhile Char.isDigit
        let rest := rest.drop more.length
        match rest with
        | '.' :: rest => floating (fractionPart value more.length rest)
        | _ => floating (afterFraction value more.length rest)
      else finish value rest
    else .error ⟨.invalidNumber, s, 1⟩

def skipExponent (s : List Char) : Except Fault (List Char) :=
  let s := match s with
    | '+' :: rest => rest
    | '-' :: rest => rest
    | _ => s
  if s.head?.any Char.isDigit then .ok (s.dropWhile Char.isDigit)
  else .error (.atNext .invalidNumber s)

def skipNumber (s : List Char) : Except Fault (List Char) :=
  let exponent (s : List Char) : Except Fault (List Char) :=
    match s with
    | 'e' :: rest => skipExponent rest
    | 'E' :: rest => skipExponent rest
    | _ => .ok s
  let fraction (s : List Char) : Except Fault (List Char) :=
    match s with
    | '.' :: rest =>
      if rest.head?.any Char.isDigit then exponent (rest.dropWhile Char.isDigit)
      else .error (.atNext .invalidNumber rest)
    | _ => exponent s
  match s with
  | '0' :: rest =>
    if rest.head?.any Char.isDigit then .error (.atNext .invalidNumber rest) else fraction rest
  | c :: _ =>
    if c.isDigit then fraction (s.dropWhile Char.isDigit) else .error ⟨.invalidNumber, s, 1⟩
  | [] => .error (.here .invalidNumber [])

/-! ## Values that do not matter -/

inductive Enclosure where
  | list
  | object
deriving DecidableEq, Repr

def skipKey (s : List Char) : Except Fault (List Char) :=
  match skipBlanks s with
  | [] => .error (.atNext .endInObject [])
  | '"' :: rest => do
    let rest ← skipString rest.length rest
    match skipBlanks rest with
    | [] => .error (.atNext .endInObject [])
    | ':' :: rest => .ok rest
    | rest => .error (.atNext .expectedColon rest)
  | rest => .error (.atNext .keyNotString rest)

mutual

/-- What is left after a value and all that encloses it, innermost first. Each round reads at least
one character, so as many rounds as there are characters are enough. -/
def skipValue : (fuel : Nat) → List Enclosure → List Char → Except Fault (List Char)
  | 0, _, s => .error (.atNext .endInValue s)
  | fuel + 1, enclosing, s =>
    match skipBlanks s with
    | [] => .error (.atNext .endInValue [])
    | '[' :: rest => skipAfter fuel false (.list :: enclosing) rest
    | '\x7b' :: rest => skipAfter fuel false (.object :: enclosing) rest
    | 'n' :: rest => do skipAfter fuel true enclosing (← word "ull".toList rest)
    | 't' :: rest => do skipAfter fuel true enclosing (← word "rue".toList rest)
    | 'f' :: rest => do skipAfter fuel true enclosing (← word "alse".toList rest)
    | '"' :: rest => do skipAfter fuel true enclosing (← skipString rest.length rest)
    | '-' :: rest => do skipAfter fuel true enclosing (← skipNumber rest)
    | c :: rest =>
      if c.isDigit then do skipAfter fuel true enclosing (← skipNumber (c :: rest))
      else .error (.atNext .expectedValue (c :: rest))

/-- What is left after the rest of all that encloses a place. A comma may come next if a value has
come before. -/
def skipAfter : (fuel : Nat) → (acceptsComma : Bool) → List Enclosure → List Char →
    Except Fault (List Char)
  | 0, _, _, s => .error (.atNext .endInValue s)
  | _, _, [], s => .ok s
  | fuel + 1, acceptsComma, .list :: enclosing, s =>
    match skipBlanks s with
    | [] => .error (.atNext .endInList [])
    | ']' :: rest => skipAfter fuel true enclosing rest
    | c :: rest =>
      if !acceptsComma then skipValue fuel (.list :: enclosing) (c :: rest)
      else if c = ',' then skipValue fuel (.list :: enclosing) rest
      else .error (.atNext .expectedListEnd (c :: rest))
  | fuel + 1, acceptsComma, .object :: enclosing, s =>
    match skipBlanks s with
    | [] => .error (.atNext .endInObject [])
    | '\x7d' :: rest => skipAfter fuel true enclosing rest
    | c :: rest =>
      if !acceptsComma then do skipValue fuel (.object :: enclosing) (← skipKey (c :: rest))
      else if c = ',' then do skipValue fuel (.object :: enclosing) (← skipKey rest)
      else .error (.atNext .expectedObjectEnd (c :: rest))

end

def skipAny (s : List Char) : Except Fault (List Char) :=
  skipValue (2 * s.length + 2) [] s

end LinkGate.Manifest
