import LinkGate.Json
import LinkGate.Path

/-!
# Links to check

Web addresses that were found in documents, each kept once together with every place at which it was
written. Addresses are in increasing order of their characters, which is also the order of their
bytes, and the places of one address are in the order in which they were found.
-/

namespace LinkGate

structure Origin where
  document : Path
  /-- The target as it is written. -/
  target : String
  line : Nat
deriving DecidableEq, Repr

def Origin.fields (o : Origin) : List (String × Json) :=
  [("document", .string o.document.text), ("target", .string o.target), ("line", .number o.line)]

structure LinkSet where
  entries : List (String × List Origin)
deriving DecidableEq, Repr

namespace LinkSet

def empty : LinkSet := ⟨[]⟩

/-- Adds an origin to the entry of an address, or makes a new entry where the order puts it. -/
def insertEntry (url : String) (origin : Origin) :
    List (String × List Origin) → List (String × List Origin)
  | [] => [(url, [origin])]
  | (other, origins) :: rest =>
    if url < other then (url, [origin]) :: (other, origins) :: rest
    else if url = other then (other, origins ++ [origin]) :: rest
    else (other, origins) :: insertEntry url origin rest

def origins (set : LinkSet) (url : String) : List Origin :=
  ((set.entries.find? (·.1 == url)).map (·.2)).getD []

/-- Adds a place at which an address is written. The answer is whether it is the first one. -/
def insert (set : LinkSet) (url : String) (origin : Origin) : Bool × LinkSet :=
  let set : LinkSet := ⟨insertEntry url origin set.entries⟩
  ((set.origins url).length == 1, set)

def urls (set : LinkSet) : List String :=
  set.entries.map (·.1)

def size (set : LinkSet) : Nat :=
  set.entries.length

def isEmpty (set : LinkSet) : Bool :=
  set.entries.isEmpty

end LinkSet

end LinkGate
