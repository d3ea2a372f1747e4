/-!
# Paths

A path is kept exactly as it is written. What it names is read off its components: the parts between
slashes, without empty ones and without dots, except that a dot which begins a relative path is kept.
-/

namespace LinkGate

/-- A path as it is written, with slashes between its parts. -/
structure Path where
  text : String
deriving DecidableEq, Repr, Inhabited

namespace Path

inductive Component where
  /-- The slash that begins an absolute path. -/
  | root
  /-- A dot. -/
  | current
  /-- Two dots. -/
  | parent
  | normal (name : String)
deriving DecidableEq, Repr

/-- What one part between slashes means; nothing if it is empty. -/
def Component.ofPart? : List Char → Option Component
  | [] => none
  | ['.'] => some .current
  | ['.', '.'] => some .parent
  | name => some (.normal (String.ofList name))

def followingComponents (parts : List (List Char)) : List Component :=
  (parts.filterMap Component.ofPart?).filter (· ≠ .current)

def componentsOf (s : List Char) : List Component :=
  match s.splitOn '/' with
  | [] => []
  | [] :: [] => []
  | [] :: rest => .root :: followingComponents rest
  | first :: rest => (Component.ofPart? first).toList ++ followingComponents rest

def components (p : Path) : List Component :=
  componentsOf p.text.toList

def isAbsolute (p : Path) : Bool :=
  p.text.toList.head? == some '/'

/-- The components by which documents are told apart: a dot at the beginning makes no difference. -/
def identity (p : Path) : List Component :=
  p.components.filter (· ≠ .current)

def Component.name? : Component → Option String
  | normal name => some name
  | _ => none

/-- The name of the file or directory that a path leads to, if it ends in a name. -/
def fileName? (p : Path) : Option String :=
  p.components.getLast?.bind Component.name?

/-- The directory in which a path lies, as names each followed by a slash. Steps that are not names
are left out. -/
def directory (p : Path) : String :=
  String.join ((p.components.dropLast.filterMap Component.name?).map (· ++ "/"))

/-- The path that `p` leads to when one starts at `base`. -/
def join (base p : Path) : Path :=
  if p.isAbsolute || base.text.isEmpty then p
  else if base.text.toList.getLast? = some '/' then ⟨base.text ++ p.text⟩
  else ⟨base.text ++ "/" ++ p.text⟩

end Path

end LinkGate
