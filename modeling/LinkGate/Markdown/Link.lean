import LinkGate.Markdown.Event
import LinkGate.Text.Whitespace

/-!
# The links of a document

Of the events of a document, the links and images that are written with brackets are kept, each
with its target exactly as written, the bytes that it covers and its line. What a target means is
not decided here.
-/

namespace LinkGate.Markdown

structure RawLink where
  /-- The destination without the whitespace around it. -/
  target : String
  /-- The line that the link begins on, counted from one. -/
  line : Nat
  start : Nat
  stop : Nat
deriving DecidableEq, Repr

/-- Whether a link is written with brackets that name its destination, as opposed to between angle brackets
or with a label that has no definition. -/
def LinkForm.isBracketed : LinkForm → Bool
  | inline | reference | collapsed | shortcut => true
  | autolink | mail | undefined => false

def lineFeeds (text : String) : List Nat :=
  text.toUTF8.toList.zipIdx.filterMap fun (byte, position) =>
    if byte = 10 then some position else none

/-- The line that a byte position is on: one more than the line feeds before it. -/
def lineAt (feeds : List Nat) (position : Nat) : Nat :=
  feeds.countP (· < position) + 1

/-- The link that an event reports, if it is one with brackets and a target that is not blank. -/
def RawLink.ofEvent? (feeds : List Nat) : Event → Option RawLink
  | .other .. => none
  | .link form _ destination start stop =>
    let target := Text.trim destination
    if form.isBracketed && !target.isEmpty then some ⟨target, lineAt feeds start, start, stop⟩
    else none

def RawLink.ofEvents (text : String) (events : List Event) : List RawLink :=
  let feeds := lineFeeds text
  events.filterMap (RawLink.ofEvent? feeds)

/-- The line of a byte position, counted in the text in front of it. The text can be cut only between two
characters. -/
def lineOf? (text : String) (position : Nat) : Option Nat :=
  (text.pos? ⟨position⟩).map fun cut => (text.sliceTo cut).copy.toList.count '\n' + 1

/-- The same links, each line counted in the text in front of its link. There is no answer if the text cannot
be cut where a link begins. -/
def RawLink.counted? (text : String) : List Event → Option (List RawLink)
  | [] => some []
  | .other .. :: events => counted? text events
  | .link form _ destination start stop :: events =>
    let target := Text.trim destination
    if form.isBracketed && !target.isEmpty then do
      let line ← lineOf? text start
      let links ← counted? text events
      return ⟨target, line, start, stop⟩ :: links
    else counted? text events

end LinkGate.Markdown
