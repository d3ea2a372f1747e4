import LinkGate.Markdown.Node
import LinkGate.Markdown.Reference

/-!
# Blocks

The document is read line by line into its block tree, and the link definitions in it are
collected. `BlockState` is the state of that reading: the containers that are open, innermost
first, with the nodes that they hold so far. `parseBlocks` is the whole reading.
-/

namespace LinkGate.Markdown

structure Frame where
  container : Container
  start : Nat
  children : List Node

structure BlockState where
  /-- The open containers, innermost first. -/
  frames : List Frame
  /-- The finished nodes outside all containers, latest first. -/
  nodes : List Node
  definitions : Definitions
  /-- The last line began a list item and was otherwise blank. -/
  itemBegan : Bool
  /-- The last line was blank, inside a container. -/
  lastBlank : Bool
  /-- How many lists have been begun and not been ended by a block after them. -/
  listDepth : Nat

namespace BlockState

def empty : BlockState := ⟨[], [], [], false, false, 0⟩

def containers (st : BlockState) : List Container :=
  (st.frames.map (·.container)).reverse

def append (st : BlockState) (node : Node) : BlockState :=
  match st.frames with
  | [] => { st with nodes := node :: st.nodes }
  | frame :: rest => { st with frames := { frame with children := node :: frame.children } :: rest }

def openContainer (st : BlockState) (container : Container) (start : Nat) : BlockState :=
  { st with frames := ⟨container, start, []⟩ :: st.frames }

/-- In a tight list, the paragraphs of an item give their text to the item itself. An item whose
first paragraph has no text is left without children. -/
def tightenItem : Node → Node
  | .block (.container (.item indent)) start stop children =>
    match children with
    | .block .paragraph _ _ [] :: _ => .block (.container (.item indent)) start stop []
    | _ =>
      .block (.container (.item indent)) start stop <| children.flatMap fun
        | .block .paragraph _ _ (first :: rest) => first :: rest
        | node => [node]
  | node => node

def close (st : BlockState) (stop : Nat) : BlockState :=
  match st.frames with
  | [] => st
  | frame :: rest =>
    let children := frame.children.reverse
    let isTight := match frame.container with
      | .list isTight _ => isTight
      | _ => false
    let children := if isTight then children.map tightenItem else children
    { st with frames := rest }.append
      (.block (.container frame.container) frame.start stop children)

/-- Closes containers until `depth` of them are open. -/
def closeTo (st : BlockState) (depth stop : Nat) : BlockState :=
  (List.range (st.frames.length - depth)).foldl (fun st _ => st.close stop) st

def loosen (frame : Frame) : Frame :=
  match frame.container with
  | .list _ delimiter => { frame with container := .list false delimiter }
  | _ => frame

/-- Before a block that is no list item: closes the list it follows; after a blank line, a list
whose item the block belongs to is loose. -/
def finishList (st : BlockState) (stop : Nat) : BlockState :=
  let st := match st.frames with
    | ⟨.list _ _, _, _⟩ :: _ => { st.close stop with listDepth := st.listDepth - 1 }
    | _ => st
  if st.lastBlank then
    let frames := match st.frames with
      | inner :: outer :: rest => inner :: loosen outer :: rest
      | frames => frames
    { st with frames, lastBlank := false }
  else st

def continueList (st : BlockState) (delimiter : Char) (start : Nat) : BlockState :=
  let isContinued := match st.frames with
    | ⟨.list _ existing, _, _⟩ :: _ => existing == delimiter
    | _ => false
  if isContinued then
    if st.lastBlank then
      { st with
        frames := match st.frames with
          | frame :: rest => loosen frame :: rest
          | [] => []
        lastBlank := false }
    else st
  else
    let st := if st.frames.isEmpty then st else st.finishList start
    { st.openContainer (.list true delimiter) start with
      listDepth := st.listDepth + 1, lastBlank := false }

/-! ## Recognising the beginnings of blocks -/

def headingLevel? (s : Source) (i : Nat) : Option Nat :=
  let stop := s.skipWhile (· == '#') i
  if i < stop && stop ≤ i + 6 && (s.get? stop).all Source.isBlank then some (stop - i) else none

def underlineEnd? (s : Source) (i : Nat) : Option Nat :=
  match s.get? i with
  | some c => if c == '=' || c == '-' then s.blankLine? (s.skipWhile (· == c) i) else none
  | none => none

/-- The character and the width of a code fence. -/
def fence? (s : Source) (i : Nat) : Option (Char × Nat) :=
  match s.get? i with
  | some c =>
    if c == '\x60' || c == '~' then
      let stop := s.skipWhile (· == c) i
      if stop < i + 3 then none
      else if c == '\x60' && s.get? (s.skipWhile (fun d => d != '\x60' && d != '\n') stop) == some c
      then none
      else some (c, stop - i)
    else none
  | none => none

def closingFenceEnd? (s : Source) (fence : Char) (width i : Nat) : Option Nat :=
  if s.get? i = none then some i
  else
    let stop := s.skipWhile (· == fence) i
    if stop < i + width then none
    else
      let j := s.skipWhile (· == ' ') stop
      if s.atLineEnd j then some j else none

/-- Whether a block other than a list item begins here that can follow a paragraph without a
blank line between them. -/
def interruptsParagraph (s : Source) (i : Nat) : Bool :=
  s.atLineEnd i || (Line.ruleEnd? s i).isSome || (headingLevel? s i).isSome ||
    (fence? s i).isSome || s.get? i == some '>' || s.startsInterruptingHtml i

/-- The delimiter, the number and the end of a list marker at the beginning of a line's content. -/
def bareListMarker? (s : Source) (i : Nat) : Option (Char × Nat × Nat) :=
  match s.get? i with
  | none => none
  | some c =>
    let found := if c == '-' || c == '+' || c == '*' then some (c, 0, i + 1)
      else if c.isDigit then
        let stop := s.skipWhile Char.isDigit i
        match s.get? stop with
        | some d => if d == '.' || d == ')' then some (d, Line.decimal s i stop, stop + 1) else none
        | none => none
      else none
    found.filter fun (_, _, stop) =>
      s.atLineEnd stop || s.is stop fun c => c == ' ' || c == '\t'

/-- Whether a list item begins here that can follow a paragraph without a blank line: inside a list
any item can, elsewhere a bullet or the number one, if no blank line follows its marker. -/
def listInterruptsParagraph (s : Source) (listDepth i : Nat) : Bool :=
  (bareListMarker? s i).any fun (delimiter, number, stop) =>
    0 < listDepth ||
      (!((s.blankLine? stop).bind s.blankLine?).isSome &&
        (delimiter == '-' || delimiter == '+' || delimiter == '*' || number == 1))

/-! ## Link definitions -/

/-- Skips blanks with at most one line ending inside the open containers; says how many line
endings there were. -/
def definitionBlanks? (s : Source) (containers : List Container) (i : Nat) : Option (Nat × Nat) :=
  let i := s.skipWhile Source.isLineBlank i
  match s.lineEnd? i with
  | none => some (i, 0)
  | some next =>
    let (line, depth) := (Line.start next).takeContainers s containers
    if depth = containers.length then
      let j := s.skipWhile Source.isLineBlank line.pos
      if s.atLineEnd j then none else some (j, 1)
    else none

/-- The position after a definition's title. A blank line ends the search. -/
def definitionTitleEnd? (s : Source) (i : Nat) : Option Nat :=
  match s.get? i with
  | some '\'' => go '\'' (s.stop + 1) (i + 1)
  | some '"' => go '"' (s.stop + 1) (i + 1)
  | some '(' => go ')' (s.stop + 1) (i + 1)
  | _ => none
where
  go (closing : Char) : Nat → Nat → Option Nat
    | 0, _ => none
    | fuel + 1, i =>
      match s.get? i with
      | none => none
      | some '\n' =>
        let j := s.skipWhile (fun c => c == ' ' || c == '\t') (i + 1)
        if (s.get? j).all (· == '\n') then none else go closing fuel j
      | some '\\' => go closing fuel (i + 2)
      | some c => if c = closing then some (i + 1) else go closing fuel (i + 1)

/-- Reads a link definition: the position after it, its label and its destination. If what follows
the destination on later lines is no title, the definition ends at the destination. -/
def definition? (s : Source) (st : BlockState) (i : Nat) : Option (Nat × String × String) :=
  if s.get? i = some '[' then
    let containers := st.containers
    let resume := fun next =>
      let pos := ((Line.start next).takeContainers s containers).1.pos
      if listInterruptsParagraph s st.listDepth pos || interruptsParagraph s pos then none
      else some pos
    (s.label? resume (i + 1)).bind fun (labelEnd, label) =>
      if s.get? labelEnd = some ':' then
        (definitionBlanks? s containers (labelEnd + 1)).bind fun (destStart, _) =>
          (s.destination? 1 destStart).bind fun dest =>
            if dest.next = destStart then none
            else
              let value := s.unescape dest.start dest.stop
              let bare := some (dest.next, label, value)
              match definitionBlanks? s containers dest.next with
              | none => bare
              | some (titleStart, breaks) =>
                -- On the line of the destination nothing but a title may follow.
                let withoutTitle := if 0 < breaks then bare else none
                if titleStart = dest.next then none
                else match (definitionTitleEnd? s titleStart).bind s.blankLine? with
                  | some next => some (next, label, value)
                  | none => withoutTitle
      else none
  else none

/-! ## Leaf blocks -/

def markedHtmlEnd (s : Source) (containers : List Container) (mark : String) (i : Nat) : Nat :=
  go (s.stop + 1) i
where
  go : Nat → Nat → Nat
    | 0, i => i
    | fuel + 1, i =>
      let next := s.nextLine i
      let (line, depth) := (Line.start next).takeContainers s containers
      if depth < containers.length || s.containsBetween mark i next || line.pos = s.stop then next
      else go fuel line.pos

def unmarkedHtmlEnd (s : Source) (containers : List Container) (i : Nat) : Nat :=
  go (s.stop + 1) i
where
  go : Nat → Nat → Nat
    | 0, i => i
    | fuel + 1, i =>
      let next := s.nextLine i
      let (line, depth) := (Line.start next).takeContainers s containers
      if depth < containers.length || (s.blankLine? line.pos).isSome then next
      else go fuel line.pos

/-- The end of an indented code block without the blank lines after it, and the position after
those lines. -/
def indentedCodeEnd (s : Source) (containers : List Container) (i : Nat) : Nat × Nat :=
  go (s.stop + 1) i i false
where
  go : Nat → Nat → Nat → Bool → Nat × Nat
    | 0, stop, i, _ => (stop, i)
    | fuel + 1, stop, i, isBlankLine =>
      let next := s.nextLine i
      let stop := if isBlankLine then stop else next
      let (line, depth) := (Line.start next).takeContainers s containers
      let (line, isIndented) := line.takeIndent s 4
      if depth < containers.length || !(isIndented || line.atEnd s) || line.pos = s.stop then
        (stop, next)
      else go fuel stop line.pos (s.blankLine? line.pos).isSome

/-- The end of a fenced code block, and the position after it. -/
def fencedCodeEnd (s : Source) (containers : List Container) (fence : Char) (width indent i : Nat) :
    Nat × Nat :=
  let stop := go (s.stop + 1) (s.nextLine (s.skipWhile Source.isLineBlank (i + width)))
  (stop, (s.blankLine? stop).getD stop)
where
  go : Nat → Nat → Nat
    | 0, i => i
    | fuel + 1, i =>
      let (line, depth) := (Line.start i).takeContainers s containers
      if depth < containers.length then i
      else
        let line := (line.takeIndentUpTo s indent).1
        let (closeLine, isIndented) := line.takeIndent s 4
        let closing := if isIndented then none
          else closingFenceEnd? s fence width closeLine.pos
        match closing with
        | some next => next
        | none => if line.pos < s.stop then go fuel (s.nextLine line.pos) else line.pos

/-- The cells of a table row and the position after it. Cells beyond the table's columns are
dropped. -/
def tableRow (s : Source) (containers : List Container) (columns i : Nat) : Node × Nat :=
  let (cells, next) := go (s.stop + 1) i []
  let cells := if columns = 0 then cells else cells.take columns
  (.block .other i next cells, next)
where
  go : Nat → Nat → List Node → List Node × Nat
    | 0, i, cells => (cells.reverse, i)
    | fuel + 1, i, cells =>
      let start := s.skipChar '|' i
      let textStart := s.skipWhile Source.isLineBlank start
      match s.lineEnd? textStart with
      | some next => (cells.reverse, next)
      | none =>
        let line := lineTokens s containers .cell textStart
        let cell := .block .cell start line.next (line.tokens.reverse.map .token)
        go fuel line.next (cell :: cells)

def table (s : Source) (containers : List Container) (columns headStart bodyStart : Nat) :
    Node × Nat :=
  let head := (tableRow s containers columns headStart).1
  let (rows, next) := go (s.stop + 1) bodyStart []
  (.block .other headStart next (head :: rows), next)
where
  go : Nat → Nat → List Node → List Node × Nat
    | 0, i, rows => (rows.reverse, i)
    | fuel + 1, i, rows =>
      let (line, depth) := (Line.start i).takeContainers s containers
      let start := (line.takeBlanks s).pos
      if depth = containers.length && !interruptsParagraph s start then
        let (row, next) := tableRow s containers columns start
        go fuel next (row :: rows)
      else (rows.reverse, i)

def paragraph (s : Source) (containers : List Container) (listDepth start : Nat) : Node × Nat :=
  go (s.stop + 1) start []
where
  finish (kind : BlockKind) (stop : Nat) (tokens : List Token) : Node × Nat :=
    (.block kind start stop (tokens.reverse.map .token), stop)
  go : Nat → Nat → List Token → Node × Nat
    | 0, i, tokens => finish .paragraph i tokens
    | fuel + 1, i, tokens =>
      let mode := if i = start then BarMode.mayBeHead else .plain
      let line := lineTokens s containers mode i
      let tokens := line.tokens ++ tokens
      match line.outcome with
      | .tableHead columns => table s containers columns start line.next
      | outcome =>
        let (beginning, depth) := (Line.start line.next).takeContainers s containers
        let (indented, isIndented) := beginning.takeIndent s 4
        let underline :=
          if isIndented || depth < containers.length then none else underlineEnd? s indented.pos
        match underline with
        | some stop => finish .heading stop tokens
        | none =>
          -- An indented line only goes on with the paragraph.
          if !isIndented && (listInterruptsParagraph s listDepth indented.pos ||
              interruptsParagraph s indented.pos) then
            finish .paragraph line.next tokens
          else
            let next := indented.takeBlanks s
            if next.atEnd s then finish .paragraph line.next tokens
            else
              let tokens := match outcome with
                | .broken lineBreak => lineBreak :: tokens
                | _ => tokens
              go fuel next.pos tokens

def markedHeading (s : Source) (containers : List Container) (level start : Nat) : Node × Nat :=
  match s.lineEnd? (start + level) with
  | some next => (.block .heading start next [], next)
  | none =>
    let textStart := s.skipWhile Source.isLineBlank (start + level)
    let line := lineTokens s containers .plain textStart
    (.block .heading start line.next (line.tokens.reverse.map .token), line.next)

/-! ## The whole document -/

/-- Opens the containers that begin on a line. The answer is the state, the rest of the line, and
whether the line is done because it ends right after a list marker. -/
def openContainers (s : Source) (lineStart : Nat) (st : BlockState) (line : Line) :
    BlockState × Line × Bool :=
  go (s.stop + 1) st line
where
  go : Nat → BlockState → Line → BlockState × Line × Bool
    | 0, st, line => (st, line, false)
    | fuel + 1, st, line =>
      match line.takeListMarker? s with
      | some (after, marker) =>
        let st := st.continueList marker.delimiter line.pos
        let st := st.openContainer (.item marker.indent) line.pos
        match s.blankLine? after.pos with
        | some next => ({ st with itemBegan := true }, { after with pos := next }, true)
        | none => go fuel st after
      | none =>
        match line.takeQuote? s with
        | some after => go fuel ((st.finishList lineStart).openContainer .quote line.pos) after
        | none => (st, line, false)

/-- Reads a blank line. A list item can begin with at most one. -/
def blankLine (st : BlockState) (lineStart : Nat) : BlockState :=
  match st.frames with
  | [] | ⟨.quote, _, _⟩ :: _ => st
  | _ => { if st.itemBegan then st.close lineStart else st with lastBlank := true }

def leaf (s : Source) (st : BlockState) (line : Line) : BlockState × Nat :=
  let containers := st.containers
  let (line, indent) := line.takeIndentUpTo s 4
  let i := line.pos
  if indent = 4 then
    let (stop, next) := indentedCodeEnd s containers i
    (st.append (.block .other i stop []), next)
  else
    let html := if s.get? i = some '<' then
        match s.htmlBlockMark? (i + 1) with
        | some mark => some (markedHtmlEnd s containers mark i)
        | none =>
          if s.startsBlockTag (i + 1) || s.isLoneTagLine i then some (unmarkedHtmlEnd s containers i)
          else none
      else none
    match html, Line.ruleEnd? s i, headingLevel? s i with
    | some next, _, _ | none, some next, _ => (st.append (.block .other i next []), next)
    | none, none, some level =>
      let (node, next) := markedHeading s containers level i
      (st.append node, next)
    | none, none, none =>
      match definition? s st i, fence? s i with
      | some (next, label, dest), _ =>
        ({ st with definitions := st.definitions.define label dest },
          (s.blankLine? next).getD next)
      | none, some (fence, width) =>
        let (stop, next) := fencedCodeEnd s containers fence width indent i
        (st.append (.block .other i stop []), next)
      | none, none =>
        let (node, next) := paragraph s containers st.listDepth i
        (st.append node, next)

def step (s : Source) (st : BlockState) (lineStart : Nat) : BlockState × Nat :=
  let (line, depth) := (Line.start lineStart).takeContainers s st.containers
  let (st, line, isDone) := openContainers s lineStart (st.closeTo depth lineStart) line
  if isDone then (st, line.pos)
  else match s.blankLine? line.pos with
    | some next => (blankLine st lineStart, next)
    | none => leaf s ({ st with itemBegan := false }.finishList lineStart) line

end BlockState

def parseBlocks (s : Source) : List Node × Definitions :=
  go (s.stop + 1) .empty 0
where
  go : Nat → BlockState → Nat → List Node × Definitions
    | 0, st, _ => (st.nodes.reverse, st.definitions)
    | fuel + 1, st, i =>
      if i < s.stop then
        let (st, next) := st.step s i
        go fuel st next
      else
        let st := st.closeTo 0 i
        (st.nodes.reverse, st.definitions)

end LinkGate.Markdown
