import LinkGate.Markdown.Source

/-!
# The beginning of a line

Before a block is recognised, its line is read from the left: indentation is counted in columns,
with tab stops every four columns, and the markers of block quotes and list items are taken off.
A `Line` is the state of that reading. A tab may be consumed in part; the columns of it that are
left over are kept in `pending`.

The second half of the module says which containers a line continues.
-/

namespace LinkGate.Markdown

structure Line where
  /-- The next byte to read. -/
  pos : Nat
  /-- Tab stops are counted from here. -/
  tabOrigin : Nat
  /-- Columns of a consumed tab that are not used up. -/
  pending : Nat

namespace Line

def start (pos : Nat) : Line := ⟨pos, pos, 0⟩

/-- Consumes up to `columns` columns of indentation and says how many were missing. -/
def takeColumns (s : Source) (line : Line) (columns : Nat) : Line × Nat :=
  let used := min line.pending columns
  go { line with pending := line.pending - used } (columns - used)
where
  go (line : Line) (columns : Nat) : Line × Nat :=
    if columns = 0 then (line, 0)
    else if _h : s.is line.pos (· == ' ') then go { line with pos := line.pos + 1 } (columns - 1)
    else if _h : s.is line.pos (· == '\t') then
      let width := 4 - (line.pos - line.tabOrigin) % 4
      let used := min width columns
      go ⟨line.pos + 1, line.pos + 1, width - used⟩ (columns - used)
    else (line, columns)
  termination_by s.stop - line.pos
  decreasing_by
    all_goals
      have := Source.lt_stop_of_is _h
      simp_wf
      omega

/-- Consumes exactly this much indentation, or says that there is less. -/
def takeIndent (s : Source) (line : Line) (columns : Nat) : Line × Bool :=
  let (line, missing) := line.takeColumns s columns
  (line, missing == 0)

/-- Consumes at most this much indentation and says how much there was. -/
def takeIndentUpTo (s : Source) (line : Line) (columns : Nat) : Line × Nat :=
  let (line, missing) := line.takeColumns s columns
  (line, columns - missing)

def takeBlanks (s : Source) (line : Line) : Line :=
  { line with pos := s.skipWhile (fun c => c == ' ' || c == '\t') line.pos, pending := 0 }

def atEnd (s : Source) (line : Line) : Bool :=
  s.atLineEnd line.pos

def takeQuote? (s : Source) (line : Line) : Option Line :=
  let inner := (line.takeColumns s 3).1
  if s.get? inner.pos = some '>' then
    some (({ inner with pos := inner.pos + 1 } : Line).takeColumns s 1).1
  else none

/-! ## Thematic breaks and list markers -/

/-- The position after a thematic break: three or more of one of `*`, `-` and `_`, alone on the
line but for blanks. -/
def ruleEnd? (s : Source) (i : Nat) : Option Nat :=
  if s.stop < i + 3 then none else
  match s.get? i with
  | some c =>
    if c == '*' || c == '-' || c == '_' then
      let isPart := fun d => d == c || d == ' ' || d == '\t'
      let stop := s.skipWhile isPart i
      let count := (List.range (stop - i)).countP fun k => s.get? (i + k) == some c
      if count < 3 then none else s.lineEnd? stop
    else none
  | none => none

/-- A list marker: its delimiter, and the indentation that its item's content has. -/
structure ListMarker where
  delimiter : Char
  /-- The number of an ordered item; zero for a bullet. -/
  number : Nat
  indent : Nat

/-- After a marker, the indentation of the content: up to four columns after the marker belong to
it, and five or more are the content's own, as they are when the rest of the line is blank. -/
def finishMarker (s : Source) (line : Line) (delimiter : Char) (number indent : Nat) :
    Line × ListMarker :=
  if (s.blankLine? line.pos).isSome then (line, ⟨delimiter, number, indent⟩)
  else
    let (inner, extra) := line.takeIndentUpTo s 4
    if extra < 4 then (inner, ⟨delimiter, number, indent + extra⟩)
    else (line, ⟨delimiter, number, indent⟩)

def decimal (s : Source) (start stop : Nat) : Nat :=
  (List.range (stop - start)).foldl
    (fun n k => 10 * n + ((s.get? (start + k)).elim 0 fun c => c.toNat - '0'.toNat)) 0

/-- Takes off a list marker: a bullet, or at most nine digits and a `.` or `)`. -/
def takeListMarker? (s : Source) (line : Line) : Option (Line × ListMarker) :=
  let (inner, indent) := line.takeIndentUpTo s 4
  if 4 ≤ indent then none else
  match s.get? inner.pos with
  | none => none
  | some c =>
    if c == '-' || c == '+' || c == '*' then
      if (ruleEnd? s inner.pos).isSome then none else
      let after : Line := { inner with pos := inner.pos + 1 }
      let (spaced, hasSpace) := after.takeIndent s 1
      if hasSpace || spaced.atEnd s then some (spaced.finishMarker s c 0 (indent + 2)) else none
    else if c.isDigit then
      let stop := s.skipWhile Char.isDigit inner.pos
      match s.get? stop with
      | some d =>
        if 9 < stop - inner.pos then none
        else if d == '.' || d == ')' then
          let after : Line := { inner with pos := stop + 1 }
          let (spaced, hasSpace) := after.takeIndent s 1
          if hasSpace || spaced.atEnd s then
            some (spaced.finishMarker s d (decimal s inner.pos stop)
              (indent + 2 + (stop - inner.pos)))
          else none
        else none
      | none => none
    else none

end Line

/-! ## Containers -/

inductive Container where
  | quote
  /-- A list; tight until a blank line sets two of its blocks apart. -/
  | list (isTight : Bool) (delimiter : Char)
  | item (indent : Nat)
deriving Inhabited, BEq

/-- Reads the markers of open containers, outermost first, off a line, and counts the containers
that the line continues. A list is continued by every line; a list item by lines that are indented
to its content or blank. -/
def Line.takeContainers (s : Source) (line : Line) : List Container → Line × Nat
  | [] => (line, 0)
  | .quote :: rest =>
    match line.takeQuote? s with
    | some inner => let (out, n) := inner.takeContainers s rest; (out, n + 1)
    | none => (line, 0)
  | .item indent :: rest =>
    let (inner, isIndented) := line.takeIndent s indent
    if isIndented || inner.atEnd s then
      let (out, n) := inner.takeContainers s rest
      (out, n + 1)
    else (line, 0)
  | .list _ _ :: rest => let (out, n) := line.takeContainers s rest; (out, n + 1)

end LinkGate.Markdown
