/-!
# What a document's running text holds

The reading of a document is reported as a list of events in document order: one for each link or
image, in whatever form it is written, and one for each other inline construct.
-/

namespace LinkGate.Markdown

inductive LinkForm where
  /-- `[text](destination)` -/
  | inline
  /-- `[text][label]` -/
  | reference
  /-- `[label][]` -/
  | collapsed
  /-- `[label]` -/
  | shortcut
  /-- `<https://example.test>` -/
  | autolink
  /-- `<me@example.test>` -/
  | mail
  /-- `[text][label]`, `[label][]` or `[label]` with a label that has no definition. Here such brackets are
  plain text. -/
  | undefined
deriving DecidableEq, Repr

/-- An inline construct with the bytes that it covers. -/
inductive Event where
  | link (form : LinkForm) (isImage : Bool) (destination : String) (start stop : Nat)
  | other (start stop : Nat)
deriving DecidableEq, Repr

def Event.start : Event → Nat
  | link _ _ _ start _ => start
  | other start _ => start

def Event.stop : Event → Nat
  | link _ _ _ _ stop => stop
  | other _ stop => stop

end LinkGate.Markdown
