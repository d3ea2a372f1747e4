import LinkGate.Files.Basic

/-!
# Trees of files

A file system as a tree of directories, files and symbolic links. A path is walked part by part from
the root or from the current directory; a link is replaced by the path that it holds.
-/

namespace LinkGate.Files

inductive Tree where
  | directory (entries : List (String × Tree))
  | file (bytes : ByteArray)
  | link (target : String)
deriving Inhabited

namespace Tree

def child? (name : String) : Tree → Option Tree
  | directory entries => (entries.find? (·.1 == name)).map (·.2)
  | _ => none

def at? : List String → Tree → Option Tree
  | [], t => some t
  | name :: names, t => (t.child? name).bind (at? names)

def isDirectory : Tree → Bool
  | directory _ => true
  | _ => false

/-- Puts a node at a row of names. Directories on the way are made if they are missing. -/
def put (node : Tree) : List String → Tree → Tree
  | [], _ => node
  | name :: names, t =>
    let entries := match t with
      | directory entries => entries
      | _ => []
    let old := (t.child? name).getD (directory [])
    directory (entries.filter (·.1 != name) ++ [(name, put node names old)])

def linkLimit : Nat := 40

def nameLimit : Nat := 255

/-- The number of bytes from which a path is too long. -/
def pathLimit : Nat := 4096

/-- Walks parts of a path from a place, given as names with the last one first. Every part, even an
empty one, asks for a directory to be walked from. `links` counts the links that may still be
followed. -/
def walk (root : Tree) : (links : Nat) → (place parts : List String) →
    Except ReadError (List String)
  | _, place, [] => .ok place
  | links, place, part :: parts =>
    match root.at? place.reverse with
    | none => .error .notFound
    | some here =>
      if !here.isDirectory then .error .notADirectory
      else if part = "" ∨ part = "." then walk root links place parts
      else if part = ".." then walk root links (place.drop 1) parts
      else if nameLimit < part.utf8ByteSize then .error .nameTooLong
      else
        match here.child? part with
        | none => .error .notFound
        | some (link target) =>
          match links with
          | 0 => .error .tooManyLinks
          | links + 1 =>
            let place := if target.startsWith "/" then [] else place
            walk root links place ((target.splitOn "/") ++ parts)
        | some _ => walk root links (part :: place) parts
termination_by links _ parts => (links, parts.length)

def resolve (root : Tree) (current : List String) (path : Path) : Except ReadError (List String) :=
  if path.text.contains '\x00' then .error .nulInPath
  else if path.text.isEmpty then .error .notFound
  else if pathLimit ≤ path.text.utf8ByteSize then .error .nameTooLong
  else
    walk root linkLimit (if path.isAbsolute then [] else current.reverse) (path.text.splitOn "/")

def read (root : Tree) (current : List String) (path : Path) : Except ReadError ByteArray :=
  match resolve root current path with
  | .error e => .error e
  | .ok place =>
    match root.at? place.reverse with
    | some (file bytes) => .ok bytes
    | some (directory _) => .error .isADirectory
    | _ => .error .notFound

def hasPath (root : Tree) (current : List String) (path : Path) : Bool :=
  match resolve root current path with
  | .error _ => false
  | .ok place => (root.at? place.reverse).isSome

/-- A tree as a file system, seen from a current directory. -/
def files (root : Tree) (current : List String) : Files where
  read := root.read current
  has := root.hasPath current

end Tree

end LinkGate.Files
