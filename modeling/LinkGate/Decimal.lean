/-!
# Decimal text of floating-point numbers

A finite number is written with the fewest digits from which it can be read back, and of those with
the nearest ones. All arithmetic is exact: the numbers that read as a given one form an interval, and
for one digit, two digits and so on the two decimals next to the number are tried.
-/

namespace LinkGate.Decimal

/-- A positive number `mantissa * 2 ^ exponent`, in the form in which it is stored. -/
structure Binary where
  mantissa : Nat
  exponent : Int

/-- Half-open pieces of the number line around a number, over a common denominator. -/
structure Interval where
  low : Nat
  value : Nat
  high : Nat
  denominator : Nat
  /-- Whether the ends belong to the interval. -/
  closed : Bool

/-- The decimals that read as a number. Below a power of two the numbers are closer together. -/
def Binary.interval (b : Binary) : Interval :=
  let scale := Nat.pow 2 b.exponent.toNat
  let gap := if b.mantissa = 0x10000000000000 ∧ b.exponent ≠ -1074 then 1 else 2
  { low := 4 * b.mantissa * scale - gap * scale
    value := 4 * b.mantissa * scale
    high := 4 * b.mantissa * scale + 2 * scale
    denominator := 4 * Nat.pow 2 (-b.exponent).toNat
    closed := b.mantissa % 2 == 0 }

def Interval.holds (i : Interval) (digits : Nat) (exponent : Int) : Bool :=
  let left := digits * Nat.pow 10 exponent.toNat * i.denominator
  let scale := Nat.pow 10 (-exponent).toNat
  if i.closed then i.low * scale ≤ left && left ≤ i.high * scale
  else i.low * scale < left && left < i.high * scale

/-- The number of digits of a number before the point, or one less than the zeros behind it, negated;
found by going up or down from `guess`. -/
def magnitude (value denominator : Nat) : (fuel : Nat) → (guess : Int) → Int
  | 0, guess => guess
  | fuel + 1, guess =>
    if value * Nat.pow 10 (-guess).toNat < Nat.pow 10 guess.toNat * denominator then
      if Nat.pow 10 (guess - 1).toNat * denominator ≤ value * Nat.pow 10 (-(guess - 1)).toNat then guess
      else magnitude value denominator fuel (guess - 1)
    else magnitude value denominator fuel (guess + 1)

/-- The nearer of the two decimals with an exponent next to a number that read as it. -/
def Interval.pick? (i : Interval) (exponent : Int) : Option Nat :=
  let num : Nat := i.value * Nat.pow 10 (-exponent).toNat
  let den : Nat := i.denominator * Nat.pow 10 exponent.toNat
  let below := num / den
  match i.holds below exponent && below ≠ 0, i.holds (below + 1) exponent with
  | true, true =>
    if 2 * (num % den) < den ∨ (2 * (num % den) = den ∧ below % 2 = 0) then some below
    else some (below + 1)
  | true, false => some below
  | false, true => some (below + 1)
  | false, false => none

/-- The shortest decimal, as digits and exponent, trying `count` digits and more. -/
def Interval.shortest (i : Interval) (magnitude : Int) : (fuel count : Nat) → Nat × Int
  | 0, _ => (0, 0)
  | fuel + 1, count =>
    let exponent := magnitude - count
    match i.pick? exponent with
    | some digits => (digits, exponent)
    | none => i.shortest magnitude fuel (count + 1)

def dropZeros : (fuel digits : Nat) → (exponent : Int) → Nat × Int
  | 0, digits, exponent => (digits, exponent)
  | fuel + 1, digits, exponent =>
    if digits ≠ 0 ∧ digits % 10 = 0 then dropZeros fuel (digits / 10) (exponent + 1)
    else (digits, exponent)

/-- The text of a decimal. A point is written between the digits, or with zeros around them, for
magnitudes from -4 to 16; beyond that an exponent follows the first digit. -/
def layout (digits : Nat) (exponent : Int) : String :=
  let ds := (toString digits).toList
  let point := exponent + ds.length
  if 0 ≤ exponent ∧ point ≤ 16 then
    String.ofList (ds ++ List.replicate exponent.toNat '0' ++ ['.', '0'])
  else if 0 < point ∧ point ≤ 16 then
    String.ofList (ds.take point.toNat ++ '.' :: ds.drop point.toNat)
  else if -5 < point ∧ point ≤ 0 then
    String.ofList ('0' :: '.' :: List.replicate (-point).toNat '0' ++ ds)
  else
    let tail := ds.drop 1
    String.ofList (ds.take 1 ++ (if tail.isEmpty then [] else '.' :: tail)) ++ "e" ++
      toString (point - 1)

def text (x : Float) : String :=
  let bits : Nat := x.toBits.toNat
  let sign := if 0x8000000000000000 ≤ bits then "-" else ""
  let biased : Nat := bits / 0x10000000000000 % 2048
  let fraction : Nat := bits % 0x10000000000000
  let b : Binary :=
    if biased = 0 then ⟨fraction, -1074⟩ else ⟨0x10000000000000 + fraction, (biased : Int) - 1075⟩
  if b.mantissa = 0 then sign ++ "0.0"
  else
    let i := b.interval
    let guess : Int := ((Nat.log2 b.mantissa : Int) + b.exponent) * 30103 / 100000 + 1
    let (digits, exponent) := i.shortest (magnitude i.value i.denominator 8 guess) 17 1
    let (digits, exponent) := dropZeros 20 digits exponent
    sign ++ layout digits exponent

end LinkGate.Decimal
