import LinkGate.Markdown.Html
import LinkGate.Markdown.Line

/-!
# The block tree

A document is a tree of blocks. The leaves that matter for links are the tokens of running text:
brackets, rows of backticks, `<`, line breaks and the text between them. `lineTokens` cuts one line
into tokens; which tokens form links is decided later, once every definition is known.
-/

namespace LinkGate.Markdown

inductive TokenKind where
  | text
  | lineBreak
  /-- A row of backticks. An escaped row opens a code span without its first backtick. -/
  | backticks (count : Nat) (isEscaped : Bool)
  | angle
  | linkOpen
  | imageOpen
  /-- A closing bracket, and whether what it closes may be a reference by itself. -/
  | linkClose (mayRefer : Bool)
deriving BEq, Inhabited

/-- A token and the bytes that it covers. -/
structure Token where
  kind : TokenKind
  start : Nat
  stop : Nat
deriving Inhabited

inductive BlockKind where
  | paragraph
  | heading
  | cell
  | container (container : Container)
  /-- A block whose text has no links, or a table or a row of one. -/
  | other
deriving Inhabited

inductive Node where
  | token (token : Token)
  | block (kind : BlockKind) (start stop : Nat) (children : List Node)
deriving Inhabited

namespace Node

def start : Node → Nat
  | token t => t.start
  | block _ start _ _ => start

def stop : Node → Nat
  | token t => t.stop
  | block _ _ stop _ => stop

/-- The node without the part that lies before a position. -/
def startingFrom (position : Nat) : Node → Node
  | token t => token { t with start := max t.start position }
  | block kind start stop children => block kind (max start position) stop children

end Node

/-! ## Tables -/

/-- Reads the line under a table's head: cells of hyphens and colons set apart by bars. The answer
is the position after the line and the number of columns, none if the line is no such line. -/
def delimiterRow (s : Source) (i : Nat) : Nat × Nat :=
  let (line, indent) := (Line.start i).takeIndentUpTo s 4
  if 3 < indent || s.get? line.pos = none then (i, 0)
  else go (s.stop + 1) (s.skipChar '|' line.pos) true 0
where
  go : Nat → Nat → Bool → Nat → Nat × Nat
    | 0, i, _, columns => (i, columns)
    | fuel + 1, i, isCellStart, columns =>
      let finish := if isCellStart then columns else columns + 1
      match s.lineEnd? i, s.get? i with
      | some next, _ => (next, finish)
      | none, some ' ' => go fuel (i + 1) isCellStart columns
      | none, some ':' | none, some '-' => go fuel (i + 1) false columns
      | none, some '|' => go fuel (i + 1) true (columns + 1)
      | none, _ => (i, 0)

/-- The columns of a table head with some bars, not counting a bar before the first cell or after
the last one. -/
def headColumns (s : Source) (start bars lastBar : Nat) : Nat :=
  let bars := if s.get? (s.skipWhile Source.isLineBlank start) = some '|' then bars - 1 else bars
  if (s.blankLine? (lastBar + 1)).isSome then bars else bars + 1

/-! ## Lines of running text -/

inductive BarMode where
  /-- A bar ends the line: it is a table cell. -/
  | cell
  /-- The line may turn out to be the head of a table. -/
  | mayBeHead
  | plain
deriving BEq

inductive LineOutcome where
  /-- At the end of the text or of a table cell. -/
  | ended
  | broken (lineBreak : Token)
  /-- The line is the head of a table with this many columns. -/
  | tableHead (columns : Nat)

/-- A line of running text: the position after it, its tokens in reverse, and how it ends. -/
structure LineTokens where
  next : Nat
  tokens : List Token
  outcome : LineOutcome

/-- Adds the text between two positions to tokens in reverse, if there is any. -/
def addText (start stop : Nat) (tokens : List Token) : List Token :=
  if start < stop then ⟨.text, start, stop⟩ :: tokens else tokens

/-- If the line after the one that ends at `next` makes it the head of a table, the position after
that line and the number of columns. -/
def tableHead? (s : Source) (containers : List Container) (start bars lastBar next : Nat) :
    Option (Nat × Nat) :=
  let (line, depth) := (Line.start next).takeContainers s containers
  if depth = containers.length then
    let (after, columns) := delimiterRow s line.pos
    if line.pos < after && columns = headColumns s start bars lastBar then some (after, columns)
    else none
  else none

def lineTokens (s : Source) (containers : List Container) (mode : BarMode) (start : Nat) :
    LineTokens :=
  go (s.stop + 1) start start [] 0 start
where
  /-- Ends the line at the line ending at `i`. A backslash or two blanks before it belong to the
  line break. -/
  breakAt (begin i : Nat) (tokens : List Token) : LineTokens :=
    let next := (s.lineEnd? i).getD i
    let backslashes := i - s.skipBack (· == '\\') 0 i
    let blanks := i - s.skipBack Source.isLineBlank 0 i
    let textEnd :=
      if backslashes % 2 = 1 && next < s.stop then i - 1
      else if 2 ≤ blanks then i - blanks
      else i
    ⟨next, addText begin textEnd tokens, .broken ⟨.lineBreak, textEnd, next⟩⟩
  go : Nat → Nat → Nat → List Token → Nat → Nat → LineTokens
    | 0, _, i, tokens, _, _ => ⟨i, tokens, .ended⟩
    | fuel + 1, begin, i, tokens, bars, lastBar =>
      let single := fun kind width =>
        go fuel (i + width) (i + width) (⟨kind, i, i + width⟩ :: addText begin i tokens) bars lastBar
      match s.get? i with
      | none => ⟨i, addText begin i tokens, .ended⟩
      | some '\n' | some '\r' =>
        if mode == .cell then ⟨i, addText begin i tokens, .ended⟩
        else
          let head := if mode == .mayBeHead && 0 < bars then
              tableHead? s containers start bars lastBar ((s.lineEnd? i).getD i)
            else none
          match head with
          | some (next, columns) => ⟨next, tokens, .tableHead columns⟩
          | none => breakAt begin i tokens
      | some '\\' =>
        if s.is (i + 1) Source.isPunctuation then
          if s.get? (i + 1) = some '\x60' then
            let stop := s.skipWhile (· == '\x60') (i + 1)
            go fuel stop stop
              (⟨.backticks (stop - (i + 1)) true, i + 1, stop⟩ :: addText begin i tokens) bars lastBar
          else go fuel (i + 1) (i + 2) (addText begin i tokens) bars lastBar
        else go fuel begin (i + 1) tokens bars lastBar
      | some '\x60' =>
        let stop := s.skipWhile (· == '\x60') i
        single (.backticks (stop - i) false) (stop - i)
      | some '<' => single .angle 1
      | some '[' => single .linkOpen 1
      | some ']' => single (.linkClose true) 1
      | some '!' =>
        if s.get? (i + 1) = some '[' then single .imageOpen 2
        else go fuel begin (i + 1) tokens bars lastBar
      | some '|' =>
        if mode == .cell then ⟨i, addText begin i tokens, .ended⟩
        else go fuel begin (i + 1) tokens (bars + 1) i
      | some _ => go fuel begin (i + 1) tokens bars lastBar

end LinkGate.Markdown
