/-!
# Punycode

A label of a domain name that has characters beyond ASCII is written as its ASCII characters, a
hyphen, and a row of digits in base 36. The digits hold numbers of variable length, each saying how
far to move on to the next character to be inserted, counted over pairs of a character and a place.
How long numbers are written adapts to the numbers before.
-/

namespace LinkGate.Url.Punycode

/-- The smallest number that does not fit the arithmetic of the encoding. -/
def overflow : Nat := 0x100000000

def encodeLimit : Nat := 1000

def decodeLimit : Nat := 2000

/-- The value of a digit: `a` to `z`, then `0` to `9`. -/
def digitValue? (c : Char) : Option Nat :=
  if 'a' ≤ c && c ≤ 'z' then some (c.toNat - 'a'.toNat)
  else if c.isDigit then some (c.toNat - '0'.toNat + 26)
  else none

def digitChar (n : Nat) : Char :=
  if n < 26 then Char.ofNat ('a'.toNat + n) else Char.ofNat ('0'.toNat + n - 26)

/-- The least value of the digit at a place that is not the last of its number. -/
def threshold (place bias : Nat) : Nat :=
  if place ≤ bias then 1 else if bias + 26 ≤ place then 26 else place - bias

theorem threshold_pos (place bias : Nat) : 1 ≤ threshold place bias := by
  unfold threshold
  split
  · omega
  · split <;> omega

theorem threshold_le (place bias : Nat) : threshold place bias ≤ 26 := by
  unfold threshold
  split
  · omega
  · split <;> omega

def adapt (delta count : Nat) (isFirst : Bool) : Nat :=
  let scaled := if isFirst then delta / 700 else delta / 2
  go (scaled + scaled / count) 0
where
  go (delta place : Nat) : Nat :=
    if 455 < delta then go (delta / 35) (place + 36) else place + 36 * delta / (delta + 38)
  termination_by delta
  decreasing_by omega

/-! ## Decoding -/

/-- Reads the digits of one number and returns the number, added to `total`, and the rest. -/
def readNumber? (bias : Nat) : (digits : List Char) → (place weight total : Nat) →
    Option (Nat × List Char)
  | [], _, _, _ => none
  | c :: rest, place, weight, total =>
    match digitValue? c with
    | none => none
    | some digit =>
      let total := total + digit * weight
      let t := threshold place bias
      if overflow ≤ total then none
      else if digit < t then some (total, rest)
      else if overflow ≤ weight * (36 - t) then none
      else readNumber? bias rest (place + 36) (weight * (36 - t)) total

/-- Inserts the characters that the digits describe. A number ends at least one digit further on,
so as many rounds as there are digits are enough. -/
def insertAll? : (rounds : Nat) → (bias code index : Nat) → List Char → List Char →
    Option (List Char)
  | _, _, _, _, out, [] => some out
  | 0, _, _, _, _, _ :: _ => none
  | rounds + 1, bias, code, index, out, digits =>
    match readNumber? bias digits 36 1 index with
    | none => none
    | some (next, rest) =>
      let count := out.length + 1
      let code := code + next / count
      let place := next % count
      if code < 0x110000 ∧ ¬ (0xD800 ≤ code ∧ code < 0xE000) then
        insertAll? rounds (adapt (next - index) count (index = 0)) code (place + 1)
          (out.take place ++ Char.ofNat code :: out.drop place) rest
      else none

def decode? (s : List Char) : Option (List Char) :=
  if decodeLimit < s.length then none
  else
    let digits := (s.reverse.takeWhile (· != '-')).reverse
    let base := s.take (s.length - digits.length - 1)
    if digits.length = s.length ∨ base.isEmpty then
      insertAll? s.length 72 128 0 [] s
    else insertAll? s.length 72 128 0 base digits

/-! ## Encoding -/

def writeNumber (bias place q : Nat) : List Char :=
  let t := threshold place bias
  if q < t then [digitChar q]
  else digitChar (t + (q - t) % (36 - t)) :: writeNumber bias (place + 36) ((q - t) / (36 - t))
termination_by q
decreasing_by
  have h₁ := threshold_pos place bias
  have h₂ := threshold_le place bias
  have h₃ := Nat.div_le_self (q - threshold place bias) (36 - threshold place bias)
  omega

/-- How far an encoder has come: the digits so far, latest first, the steps since the last number,
the bias, and how many characters are written. -/
structure Progress where
  digits : List Char
  delta : Nat
  bias : Nat
  count : Nat

/-- Passes one character while the characters with the number `code` are being written. -/
def Progress.pass (base code : Nat) (p : Progress) (c : Char) : Progress :=
  if c.toNat < code then { p with delta := p.delta + 1 }
  else if c.toNat = code then
    { digits := (writeNumber p.bias 36 p.delta).reverse ++ p.digits
      delta := 0
      bias := adapt p.delta (p.count + 1) (p.count = base)
      count := p.count + 1 }
  else p

/-- Writes the characters of each number in turn; `code` is the number after the last one. -/
def writeAll (s : List Char) (base : Nat) : (codes : List Nat) → (code : Nat) → Progress → Progress
  | [], _, p => p
  | next :: codes, code, p =>
    let p := { p with delta := p.delta + (next - code) * (p.count + 1) }
    let p := s.foldl (Progress.pass base next) p
    writeAll s base codes (next + 1) { p with delta := p.delta + 1 }

def encode? (s : List Char) : Option (List Char) :=
  if encodeLimit < s.length then none
  else
    let plain := s.filter (·.toNat < 0x80)
    let codes := (((s.map Char.toNat).filter (0x80 ≤ ·)).mergeSort).eraseDups
    let p := writeAll s plain.length codes 128 ⟨[], 0, 72, plain.length⟩
    some (plain ++ (if plain.isEmpty then [] else ['-']) ++ p.digits.reverse)

end LinkGate.Url.Punycode
