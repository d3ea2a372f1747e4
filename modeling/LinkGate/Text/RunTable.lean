/-!
# Tables of characters

A property of characters is written down as runs: characters at even distances that share a value.
A table is an array of runs in increasing order, none of which reaches into the next, so that one
binary search finds the only run that can hold a character.

A table is read from a text with one entry for each run, `FIRST-LAST/STEP=VALUE` in hexadecimal,
where `-LAST`, `/STEP` and `=VALUE` may be left out.
-/

namespace LinkGate.Text

/-- The code points `first`, `first + step`, … up to `last`, and the value that they share. -/
structure Run where
  first : Nat
  last : Nat
  step : Nat
  value : String
deriving DecidableEq, Repr

def Run.contains (r : Run) (n : Nat) : Bool :=
  r.first ≤ n && n ≤ r.last && (n - r.first) % r.step == 0

/-- The value of a hexadecimal digit, with zero for any other character. -/
def hexDigitValue (c : Char) : Nat :=
  if c.isDigit then c.toNat - '0'.toNat
  else if 'a' ≤ c.toLower && c.toLower ≤ 'f' then c.toLower.toNat - 'a'.toNat + 10
  else 0

def hexNumber (digits : List Char) : Nat :=
  digits.foldl (fun n d => 16 * n + hexDigitValue d) 0

def Run.ofEntry (entry : List Char) : Run :=
  let span := entry.takeWhile (· != '=')
  let ends := span.takeWhile (· != '/')
  let step := (span.drop ends.length).drop 1
  let first := ends.takeWhile (· != '-')
  let last := (ends.drop first.length).drop 1
  { first := hexNumber first
    last := hexNumber (if last.isEmpty then first else last)
    step := max 1 (hexNumber step)
    value := String.ofList ((entry.drop span.length).drop 1) }

structure RunTable where
  runs : Array Run

namespace RunTable

/-- Reads a table whose entries are set apart by blanks or line ends. -/
def ofText (text : String) : RunTable :=
  ⟨((text.split Char.isWhitespace).toList.map fun entry => Run.ofEntry entry.copy.toList).toArray⟩

/-- The last run below index `hi`, and not below `lo`, that begins at or before a code point. -/
def lastBefore (t : RunTable) (n lo hi : Nat) : Option Run :=
  if lo + 1 < hi then
    let mid := (lo + hi) / 2
    match t.runs[mid]? with
    | some r => if r.first ≤ n then t.lastBefore n mid hi else t.lastBefore n lo mid
    | none => none
  else t.runs[lo]?
termination_by hi - lo
decreasing_by all_goals omega

def find? (t : RunTable) (n : Nat) : Option Run :=
  (t.lastBefore n 0 t.runs.size).filter (·.contains n)

def value? (t : RunTable) (c : Char) : Option String :=
  (t.find? c.toNat).map (·.value)

end RunTable

end LinkGate.Text
