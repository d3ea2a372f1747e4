import LinkGate.Markdown.Source
import LinkGate.Text.CaseFold
import LinkGate.Text.Entity

/-!
# Character references, destinations, titles and labels

The parts of a link, wherever one is written: inline, in a definition, or as a reference to a
definition. Two labels are the same if they agree after runs of blanks are collapsed and case is
folded.
-/

namespace LinkGate.Markdown

namespace Source

/-! ## Character references -/

def digitsValue (s : Source) (base start stop : Nat) : Nat :=
  (List.range (stop - start)).foldl
    (fun n k => base * n + ((s.get? (start + k)).elim 0 Text.Entity.hexValue)) 0

def isHexDigit (c : Char) : Bool :=
  c.isDigit || ('a' ≤ c && c ≤ 'f') || ('A' ≤ c && c ≤ 'F')

/-- The character with a given number; zero stands for the replacement character. -/
def numbered? (n : Nat) : Option String :=
  if n = 0 then some "\uFFFD"
  else if h : n.isValidChar then some (String.singleton (Char.ofNatAux n h))
  else none

/-- Reads a character reference at an `&`: the position after it and the text it stands for. -/
def characterReference? (s : Source) (i : Nat) : Option (Nat × String) :=
  if s.get? (i + 1) = some '#' then
    let isHex := s.is (i + 2) fun c => c == 'x' || c == 'X'
    let start := if isHex then i + 3 else i + 2
    let stop := s.skipWhile (if isHex then isHexDigit else Char.isDigit) start
    if start < stop && s.get? stop = some ';' then
      (numbered? (s.digitsValue (if isHex then 16 else 10) start stop)).map (stop + 1, ·)
    else none
  else
    let stop := s.skipWhile Char.isAlphanum (i + 1)
    if s.get? stop = some ';' then
      (Text.Entity.named? (s.slice (i + 1) stop)).map (stop + 1, ·)
    else none

/-- Resolves escapes and character references and drops carriage returns. -/
def unescape (s : Source) (start stop : Nat) : String :=
  go (s.upTo stop) (stop + 1) start start ""
where
  go (s : Source) : Nat → Nat → Nat → String → String
    | 0, _, _, out => out
    | fuel + 1, mark, i, out =>
      match s.get? i with
      | none => out ++ s.slice mark s.stop
      | some '\\' =>
        if s.is (i + 1) isPunctuation then go s fuel (i + 1) (i + 2) (out ++ s.slice mark i)
        else go s fuel mark (i + 1) out
      | some '&' =>
        match s.characterReference? i with
        | some (next, value) => go s fuel next next (out ++ s.slice mark i ++ value)
        | none => go s fuel mark (i + 1) out
      | some '\r' => go s fuel (i + 1) (i + 1) (out ++ s.slice mark i)
      | some _ => go s fuel mark (i + 1) out

/-! ## Destinations -/

/-- Where a destination's text lies, and the position after it. -/
structure Destination where
  start : Nat
  stop : Nat
  next : Nat

def bracketedEnd? (s : Source) (i : Nat) : Option Nat :=
  go (s.stop + 1) i
where
  go : Nat → Nat → Option Nat
    | 0, _ => none
    | fuel + 1, i =>
      match s.get? i with
      | none | some '\n' | some '\r' | some '<' => none
      | some '>' => some i
      | some '\\' => go fuel (if s.is (i + 1) isPunctuation then i + 2 else i + 1)
      | some _ => go fuel (i + 1)

/-- The end of a destination without brackets: a blank or control character, or a parenthesis
that closes nothing; at most `depth + 1` parentheses may be open at once. -/
def plainEnd? (s : Source) (depth i : Nat) : Option Nat :=
  go (s.stop + 1) 0 i
where
  go : Nat → Nat → Nat → Option Nat
    | 0, _, _ => none
    | fuel + 1, nest, i =>
      let finish := if nest = 0 then some i else none
      match s.get? i with
      | none => finish
      | some '(' => if depth < nest then none else go fuel (nest + 1) (i + 1)
      | some ')' => if nest = 0 then some i else go fuel (nest - 1) (i + 1)
      | some '\\' => go fuel nest (if s.is (i + 1) isPunctuation then i + 2 else i + 1)
      | some c => if c ≤ ' ' then finish else go fuel nest (i + 1)

def destination? (s : Source) (depth i : Nat) : Option Destination :=
  if s.get? i = some '<' then
    (s.bracketedEnd? (i + 1)).map fun j => ⟨i + 1, j, j + 1⟩
  else (s.plainEnd? depth i).map fun j => ⟨i, j, j⟩

/-! ## Labels -/

/-- Labels may have fewer characters than this, where only escapes, blanks and bytes beyond ASCII
count. -/
def labelLimit : Nat := 1000

/-- Reads a label after its `[`: the position after the `]`, and the label with each run of blanks
replaced by one space. A label holds no bracket that is not escaped, no blank line, and not only
blanks. At a line ending, `resume` gives the position where the next line's text begins, or says
that the label cannot go on. -/
def label? (s : Source) (resume : Nat → Option Nat) (i : Nat) : Option (Nat × String) :=
  go (s.stop + 1) i i 0 true ""
where
  /-- Skips a run of blanks with at most one line ending: the position after it, how many bytes it
  has, and whether it is more than one space. -/
  blanks : Nat → Nat → Nat → Nat → Option (Nat × Nat)
    | 0, _, _, _ => none
    | fuel + 1, i, weight, breaks =>
      match s.get? i with
      | none => some (i, weight)
      | some c =>
        if isBlank c then
          match s.lineEnd? i with
          | some next =>
            if breaks = 0 then (resume next).bind fun j => blanks fuel j (weight + 2) 1 else none
          | none => blanks fuel (i + 1) (weight + if c == ' ' then 1 else 2) breaks
        else some (i, weight)
  go : Nat → Nat → Nat → Nat → Bool → String → Option (Nat × String)
    | 0, _, _, _, _, _ => none
    | fuel + 1, mark, i, count, isBlankSoFar, out =>
      if labelLimit ≤ count then none else
      match s.get? i with
      | none | some '[' => none
      | some ']' =>
        if isBlankSoFar then none else some (i + 1, out ++ s.slice mark i)
      | some '\\' => go fuel mark (i + 2) (count + 2) false out
      | some c =>
        if isBlank c then
          (blanks (s.stop + 1) i 0 0).bind fun (j, weight) =>
            if 1 < weight then go fuel j j (count + (j - i)) isBlankSoFar (out ++ s.slice mark i ++ " ")
            else go fuel mark j (count + 1) isBlankSoFar out
        else go fuel mark (i + 1) (if c.toNat < 0x80 then count else count + 1) false out

end Source

/-! ## Definitions -/

/-- The destinations of the labels that a document defines, latest definition first. -/
abbrev Definitions := List (String × String)

namespace Definitions

/-- Adds a definition, unless its label has one. -/
def define (defs : Definitions) (label dest : String) : Definitions :=
  let key := Text.foldCase label
  if defs.any (·.1 == key) then defs else (key, dest) :: defs

def find? (defs : Definitions) (label : String) : Option String :=
  let key := Text.foldCase label
  (List.find? (·.1 == key) defs).map (·.2)

end Definitions

end LinkGate.Markdown
