import LinkGate.Text.RunTable

/-!
# Numeric addresses

A host can be written as an IPv4 address, in one to four decimal, octal or hexadecimal numbers, or
as an IPv6 address, eight groups of four hexadecimal digits of which a row of zeros may be left out.
-/

namespace LinkGate.Url

def numberInBase? (base : Nat) (digits : List Char) : Option Nat :=
  digits.foldlM (fun n c =>
    if (c.isDigit || ('a' ≤ c.toLower && c.toLower ≤ 'f')) && Text.hexDigitValue c < base then
      some (base * n + Text.hexDigitValue c)
    else none) 0

namespace Ipv4

/-- Reads one part of an address: hexadecimal after `0x`, octal after `0`, otherwise decimal. -/
def part? : List Char → Option Nat
  | [] => none
  | '0' :: 'x' :: digits => numberInBase? 16 digits
  | '0' :: 'X' :: digits => numberInBase? 16 digits
  | '0' :: d :: digits => numberInBase? 8 (d :: digits)
  | digits => numberInBase? 10 digits

/-- The parts between dots; one dot at the end counts for nothing. -/
def parts (host : List Char) : List (List Char) :=
  let all := host.splitOn '.'
  if all.getLast? = some [] ∧ all.length ≠ 1 then all.dropLast else all

/-- Whether a host ends in a number, so that it has to be an IPv4 address. -/
def endsInNumber (host : List Char) : Bool :=
  match (parts host).getLast? with
  | none => false
  | some last => (!last.isEmpty && last.all Char.isDigit) || (part? last).isSome

/-- The address that a host writes: the last part fills all bytes that the others leave. -/
def parse? (host : List Char) : Option UInt32 := do
  let numbers ← (parts host).mapM part?
  let last ← numbers.getLast?
  let firsts := numbers.dropLast
  if firsts.length ≤ 3 ∧ last < Nat.pow 256 (4 - firsts.length) ∧ firsts.all (· < 256) then
    some (UInt32.ofNat
      (firsts.foldl (fun n part => 256 * n + part) 0 * Nat.pow 256 (4 - firsts.length) + last))
  else none

def text (address : UInt32) : String :=
  let n := address.toNat
  ".".intercalate ([n / 0x1000000, n / 0x10000 % 256, n / 256 % 256, n % 256].map toString)

end Ipv4

namespace Ipv6

/-- The two groups of a strict dotted decimal address: four numbers below 256 without needless
zeros. -/
def embedded? (s : List Char) : Option (List Nat) :=
  let part? (digits : List Char) : Option Nat :=
    if digits.isEmpty || (digits.length > 1 && digits.head? == some '0') then none
    else (numberInBase? 10 digits).filter (· < 256)
  match (s.splitOn '.').mapM part? with
  | some [a, b, c, d] => some [256 * a + b, 256 * c + d]
  | _ => none

def group? (digits : List Char) : Option Nat :=
  if digits.isEmpty || digits.length > 4 then none else numberInBase? 16 digits

/-- The groups of a text without a double colon; only the last one may be a dotted address. -/
def groups? : List (List Char) → Option (List Nat)
  | [] => some []
  | [last] => if last.contains '.' then embedded? last else (group? last).map ([·])
  | digits :: rest => do
    let group ← group? digits
    let groups ← groups? rest
    some (group :: groups)

def side? (s : List Char) : Option (List Nat) :=
  if s.isEmpty then some [] else groups? (s.splitOn ':')

def cut? : List Char → Option (List Char × List Char)
  | ':' :: ':' :: rest => some ([], rest)
  | c :: rest => (cut? rest).map fun (before, after) => (c :: before, after)
  | [] => none

/-- The eight groups that a text writes. A double colon stands for at least one group of zeros, and
a dotted address may stand for the last two groups. -/
def parse? (s : List Char) : Option (List Nat) :=
  match cut? s with
  | none => (groups? (s.splitOn ':')).filter (·.length == 8)
  | some (before, after) => do
    if before.contains '.' then none
    let left ← side? before
    let right ← side? after
    if left.length + right.length ≤ 7 then
      some (left ++ List.replicate (8 - left.length - right.length) 0 ++ right)
    else none

def zeros (groups : List Nat) : Nat :=
  (groups.takeWhile (· == 0)).length

def longestZeros : List Nat → Nat
  | [] => 0
  | group :: rest => max (zeros (group :: rest)) (longestZeros rest)

def groupText (group : Nat) : String :=
  String.ofList (Nat.toDigits 16 group)

def splitAtZeros (length : Nat) : List Nat → List Nat × List Nat
  | [] => ([], [])
  | group :: rest =>
    if zeros (group :: rest) = length then ([], (group :: rest).drop length)
    else
      let (before, after) := splitAtZeros length rest
      (group :: before, after)

/-- The groups with colons between them; the first of the longest rows of two or more zeros is left
out. -/
def text (groups : List Nat) : String :=
  let longest := longestZeros groups
  let join (groups : List Nat) : String := ":".intercalate (groups.map groupText)
  if longest < 2 then join groups
  else
    let (before, after) := splitAtZeros longest groups
    join before ++ "::" ++ join after

end Ipv6

end LinkGate.Url
