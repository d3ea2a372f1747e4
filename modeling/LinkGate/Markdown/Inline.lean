import LinkGate.Markdown.Autolink
import LinkGate.Markdown.Block
import LinkGate.Markdown.Event

/-!
# Links in running text

The tokens of a block are read from left to right with a stack of opening brackets. A code span,
a tag or an autolink takes the tokens that it covers out of play; a closing bracket is tried as an
inline link, then as a reference to a definition. Links do not nest: once one is complete, the
opening brackets before it can only belong to images.
-/

namespace LinkGate.Markdown

/-- A child of a block, with the events inside it if it is a block itself. -/
structure Piece where
  node : Node
  inner : List Event

inductive OpenerKind where
  | link
  | image
  | disabled
deriving BEq

structure Opener where
  kind : OpenerKind
  start : Nat
  stop : Nat

namespace Piece

/-- The pieces that end after a position. -/
def endingAfter (pieces : List Piece) (position : Nat) : List Piece :=
  pieces.dropWhile fun p => p.node.stop ≤ position

/-- The pieces after a construct that ends at a position. -/
def after (pieces : List Piece) (position : Nat) : List Piece :=
  match endingAfter pieces position with
  | [] => []
  | first :: rest => { first with node := first.node.startingFrom position } :: rest

/-- Takes from the closing bracket that covers a position the chance to be a reference itself. -/
def refuseReferenceAt : List Piece → Nat → List Piece
  | [], _ => []
  | first :: rest, position =>
    if first.node.stop ≤ position then first :: refuseReferenceAt rest position
    else match first.node with
      | .token t => { first with node := .token { t with kind := .linkClose false } } :: rest
      | _ => first :: rest

/-- From the row of backticks that closes a code span on. -/
def closingBackticks (pieces : List Piece) (count : Nat) : List Piece :=
  pieces.dropWhile fun p =>
    match p.node with
    | .token ⟨.backticks n _, _, _⟩ => n != count
    | _ => true

end Piece

namespace Source

def titleEnd? (s : Source) (pieces : List Piece) (i : Nat) : Option Nat :=
  match s.get? i with
  | some '\'' => go '\'' '\'' (s.stop + 1) (i + 1)
  | some '"' => go '"' '"' (s.stop + 1) (i + 1)
  | some '(' => go '(' ')' (s.stop + 1) (i + 1)
  | _ => none
where
  go (opening closing : Char) : Nat → Nat → Option Nat
    | 0, _ => none
    | fuel + 1, i =>
      match s.get? i with
      | none => none
      | some c =>
        if c = closing then some (i + 1)
        else if c = opening then none
        else if c = '\n' || c = '\r' then
          match Piece.endingAfter pieces (i + 1) with
          | [] => go opening closing fuel (i + 1)
          | first :: _ => go opening closing fuel (max first.node.start (i + 1))
        else if c = '&' then
          match s.characterReference? i with
          | some (next, _) => go opening closing fuel next
          | none => go opening closing fuel (i + 1)
        else if c = '\\' && s.is (i + 1) isPunctuation then go opening closing fuel (i + 2)
        else go opening closing fuel (i + 1)

/-- Reads `(destination "title")`: the position after it and the destination. -/
def inlineTarget? (s : Source) (pieces : List Piece) (i : Nat) : Option (Nat × String) :=
  if s.get? i = some '(' then
    (s.destination? 5 (s.skipWhile isBlank (i + 1))).bind fun dest =>
      let titleStart := s.skipWhile isBlank dest.next
      let j := match s.titleEnd? pieces titleStart with
        | some titleEnd => s.skipWhile isBlank titleEnd
        | none => titleStart
      if s.get? j = some ')' then some (j + 1, s.unescape dest.start dest.stop) else none
  else none

def autolink? (s : Source) (i : Nat) : Option (Nat × LinkForm × String) :=
  match s.uriEnd? i with
  | some stop => some (stop, .autolink, s.slice i (stop - 1))
  | none => (s.mailEnd? i).map fun stop => (stop, .mail, s.slice i (stop - 1))

end Source

/-- What is fixed while the text of a block is read. -/
structure InlineContext where
  /-- The text, up to the end of the block. -/
  source : Source
  /-- The containers around the block, outermost first. -/
  containers : List Container
  definitions : Definitions

namespace InlineContext

/-- Where the text of a line begins, past the markers of containers. -/
def resume (ctx : InlineContext) (next : Nat) : Nat :=
  ((Line.start next).takeContainers ctx.source ctx.containers).1.pos

def label? (ctx : InlineContext) (s : Source) (i : Nat) : Option (Nat × String) :=
  s.label? (fun next => some (ctx.resume next)) i

/-- How a closing bracket refers to a definition. -/
structure Reference where
  form : LinkForm
  label : String
  stop : Nat
  /-- The pieces after the link. -/
  rest : List Piece
  /-- The pieces after the closing bracket if the label has no definition. -/
  otherwise : List Piece

/-- The reference that may end with the closing bracket `close`, whose opening bracket is on top of
the stack. -/
def reference? (ctx : InlineContext) (opener : Opener) (close : Token) (mayRefer : Bool)
    (next : List Piece) : Option Reference :=
  let s := ctx.source
  let own := fun form rest =>
    if mayRefer then
      (ctx.label? (s.upTo close.stop) opener.stop).map fun (stop, label) =>
        (⟨form, label, stop, rest, next⟩ : Reference)
    else none
  match next with
  | [] => own .shortcut next
  | first :: _ =>
    let i := first.node.start
    if s.startsWith i "[]" then own .collapsed (next.drop 2)
    else if s.get? i = some '[' then
      match ctx.label? s (i + 1) with
      | some (stop, label) =>
        match Piece.endingAfter next (stop - 1) with
        | [] => none
        | _ :: rest =>
          some ⟨.reference, label, stop, rest, Piece.refuseReferenceAt next (stop - 1)⟩
      | none => own .shortcut next
    else own .shortcut next

/-- The events of a block whose children are given. -/
def scan (ctx : InlineContext) (pieces : List Piece) : List Event :=
  go (pieces.length + 1) pieces [] []
where
  go : Nat → List Piece → List Opener → List Event → List Event
    | 0, _, _, events => events
    | _, [], _, events => events
    | fuel + 1, piece :: next, stack, events =>
      match piece.node with
      | .block .. => go fuel next stack (piece.inner ++ events)
      | .token t =>
        match t.kind with
        | .text | .lineBreak => go fuel next stack events
        | .linkOpen => go fuel next (⟨.link, t.start, t.stop⟩ :: stack) events
        | .imageOpen => go fuel next (⟨.image, t.start, t.stop⟩ :: stack) events
        | .backticks count isEscaped =>
          -- An escape in front of the row takes its first backtick.
          let count := if isEscaped then count - 1 else count
          match if count = 0 then [] else Piece.closingBackticks next count with
          | [] => go fuel next stack events
          | close :: rest => go fuel rest stack (.other t.start close.node.stop :: events)
        | .angle =>
          match next with
          | [] => events
          | first :: _ =>
            let i := first.node.start
            match ctx.source.autolink? i with
            | some (stop, form, dest) =>
              go fuel (Piece.after next stop) stack (.link form false dest t.start stop :: events)
            | none =>
              match ctx.source.inlineHtmlEnd? (some ctx.resume) i with
              | some stop => go fuel (Piece.after next stop) stack (.other t.start stop :: events)
              | none => go fuel next stack events
        | .linkClose mayRefer =>
          match stack with
          | [] => go fuel next [] events
          | opener :: stack =>
            if opener.kind == .disabled then go fuel next stack events
            else
              let isImage := opener.kind == .image
              -- A link holds no other link, so that the brackets further out become none.
              let stack' := if isImage then stack else stack.map fun o =>
                if o.kind == .link then { o with kind := .disabled } else o
              match ctx.source.inlineTarget? next t.stop with
              | some (stop, dest) =>
                go fuel (Piece.after next stop) stack'
                  (.link .inline isImage dest opener.start stop :: events)
              | none =>
                match ctx.reference? opener t mayRefer next with
                | none => go fuel next stack events
                | some ref =>
                  match ctx.definitions.find? ref.label with
                  | some dest =>
                    go fuel ref.rest stack'
                      (.link ref.form isImage dest opener.start ref.stop :: events)
                  | none => go fuel ref.otherwise stack events

end InlineContext

mutual

def Node.events (s : Source) (definitions : Definitions) (containers : List Container) :
    Node → List Event
  | .token _ => []
  | .block kind _ stop children =>
    let containers := match kind with
      | .container c => containers ++ [c]
      | _ => containers
    InlineContext.scan ⟨s.upTo stop, containers, definitions⟩
      (Node.pieces s definitions containers children)

def Node.pieces (s : Source) (definitions : Definitions) (containers : List Container) :
    List Node → List Piece
  | [] => []
  | node :: rest =>
    ⟨node, node.events s definitions containers⟩ :: Node.pieces s definitions containers rest

end

/-- The events of a document, block by block. -/
def blockEvents (text : String) : List Event :=
  let s := Source.ofString text
  let (nodes, definitions) := parseBlocks s
  nodes.flatMap fun node => node.events s definitions []

/-- The events of a document, in document order. -/
def events (text : String) : List Event :=
  (blockEvents text).mergeSort fun a b => a.start ≤ b.start

end LinkGate.Markdown
