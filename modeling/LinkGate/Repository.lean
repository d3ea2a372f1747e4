import LinkGate.Text.Affix
import LinkGate.Text.Whitespace

/-!
# Hosted repositories

A repository on github.com is known by its owner and its name. It is spelt in several ways, as an
address for `git` or as `owner/name`, and its documents are rendered under an address of their own.
-/

namespace LinkGate

structure Repository where
  owner : String
  name : String
deriving DecidableEq, Repr

namespace Repository

open Text

def host : String := "github.com"

/-- What may stand before the host in the address of a remote, in the order in which it is taken
off. -/
def schemes : List String :=
  ["https://", "http://", "ssh://", "git@", "www."]

def fromHost (url : String) : List Char :=
  schemes.foldl (fun s scheme => stripRepeated scheme.toList s) (trim url).toList

/-- The first two parts of a path are the owner and the name, the latter without one `.git`. -/
def ofPath? (path : List Char) : Option Repository :=
  match (dropEndWhile '/' path).splitOn '/' with
  | owner :: name :: _ =>
    let short := (stripEnd? ".git".toList name).getD name
    if owner.isEmpty || short.isEmpty then none
    else some ⟨String.ofList owner, String.ofList short⟩
  | _ => none

/-- The repository that the address of a remote names, if it is one on the host. A slash or a colon
follows the host. -/
def ofRemoteUrl? (url : String) : Option Repository :=
  let s := fromHost url
  ((stripStart? (host ++ "/").toList s).or (stripStart? (host ++ ":").toList s)).bind ofPath?

/-- The repository that `owner/name` names; slashes around it do not count. -/
def ofShortName? (s : String) : Option Repository :=
  match splitOnce? '/' (dropEnds '/' s.toList) with
  | none => none
  | some (owner, name) =>
    if owner.isEmpty || name.isEmpty || name.contains '/' then none
    else some ⟨String.ofList owner, String.ofList name⟩

def treeUrl (r : Repository) (ref : String) : String :=
  "https://" ++ host ++ "/" ++ r.owner ++ "/" ++ r.name ++ "/tree/" ++ ref ++ "/"

/-- The address to fetch from, for a repository given as `owner/name` or as an address. -/
def cloneUrl (repository : String) : String :=
  let s := (trim repository).toList
  if occursIn "://".toList s || "git@".toList.isPrefixOf s then String.ofList s
  else "https://" ++ host ++ "/" ++ String.ofList (dropEnds '/' s) ++ ".git"

end Repository

end LinkGate
