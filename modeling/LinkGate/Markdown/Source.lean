/-!
# Scanning document text

Markdown is scanned as bytes: every character that means something is ASCII, and all positions
that are reported are byte offsets. A `Source` is a text with a limit; a scan sees nothing at or
after the limit, so a scan of one block cannot read into the next one.

Positions are absolute. A scanner that advances returns the position after what it read, and a
scanner that may fail returns an option.
-/

namespace LinkGate.Markdown

/-- The bytes of a text below the position `stop`. -/
structure Source where
  bytes : ByteArray
  stop : Nat

namespace Source

def ofString (text : String) : Source :=
  let bytes := text.toUTF8
  { bytes, stop := bytes.size }

def upTo (s : Source) (stop : Nat) : Source :=
  { s with stop := min stop s.stop }

/-- The byte at a position below the limit, as the character of the same number. -/
def get? (s : Source) (i : Nat) : Option Char :=
  if i < s.stop then (s.bytes[i]?).map fun b => Char.ofNat b.toNat else none

def is (s : Source) (i : Nat) (p : Char → Bool) : Bool :=
  (s.get? i).any p

theorem lt_stop_of_is {s : Source} {i : Nat} {p : Char → Bool} (h : s.is i p = true) :
    i < s.stop := by
  unfold is get? at h
  split at h
  · assumption
  · simp at h

def skipWhile (s : Source) (p : Char → Bool) (i : Nat) : Nat :=
  if _h : s.is i p then s.skipWhile p (i + 1) else i
termination_by s.stop - i
decreasing_by have := lt_stop_of_is _h; omega

/-- The first position from `i` down to `floor` whose preceding byte fails a test. -/
def skipBack (s : Source) (p : Char → Bool) (floor i : Nat) : Nat :=
  if _h : floor < i ∧ s.is (i - 1) p then s.skipBack p floor (i - 1) else i
termination_by i
decreasing_by omega

def skipChar (s : Source) (c : Char) (i : Nat) : Nat :=
  if s.get? i = some c then i + 1 else i

def startsWith (s : Source) (i : Nat) (text : String) : Bool :=
  go text.toList i
where
  go : List Char → Nat → Bool
    | [], _ => true
    | c :: rest, i => s.get? i = some c && go rest (i + 1)

/-- Whether the bytes from `i` on begin with a lower-case ASCII text, whatever their case. -/
def startsWithCaseless (s : Source) (i : Nat) (text : String) : Bool :=
  go text.toList i
where
  go : List Char → Nat → Bool
    | [], _ => true
    | c :: rest, i => (s.get? i).map Char.toLower = some c && go rest (i + 1)

/-- The text between two positions that lie on character boundaries. -/
def slice (s : Source) (start stop : Nat) : String :=
  (String.fromUTF8? (s.bytes.extract start stop)).getD ""

/-! ## Byte classes -/

/-- Blanks inside a line: tab, vertical tab, form feed and space. -/
def isLineBlank (c : Char) : Bool :=
  c == '\t' || c == '\x0b' || c == '\x0c' || c == ' '

/-- ASCII whitespace: the blanks of a line and the two line-ending bytes. -/
def isBlank (c : Char) : Bool :=
  isLineBlank c || c == '\n' || c == '\r'

/-- ASCII punctuation, the characters that a backslash can escape. -/
def isPunctuation (c : Char) : Bool :=
  ('!' ≤ c && c ≤ '/') || (':' ≤ c && c ≤ '@') || ('[' ≤ c && c ≤ '\x60') || ('\x7b' ≤ c && c ≤ '~')

def isNameChar (c : Char) : Bool :=
  c.isAlphanum || c == '-'

/-! ## Lines -/

/-- At a line ending or the limit, the position after it. -/
def lineEnd? (s : Source) (i : Nat) : Option Nat :=
  match s.get? i with
  | none => some i
  | some '\n' => some (i + 1)
  | some '\r' => some (if s.get? (i + 1) = some '\n' then i + 2 else i + 1)
  | some _ => none

def atLineEnd (s : Source) (i : Nat) : Bool :=
  (s.lineEnd? i).isSome

def blankLine? (s : Source) (i : Nat) : Option Nat :=
  s.lineEnd? (s.skipWhile isLineBlank i)

def nextLine (s : Source) (i : Nat) : Nat :=
  let j := s.skipWhile (· != '\n') i
  if j < s.stop then j + 1 else j

def containsBetween (s : Source) (text : String) (start stop : Nat) : Bool :=
  (List.range (stop - start)).any fun k => (s.upTo stop).startsWith (start + k) text

end Source

end LinkGate.Markdown
