import LinkGate.Path
import LinkGate.Url.Parser

/-!
# Link targets

What a target means depends on the document that it is written in. A full address is looked up as it
is. Any other target names a file of the repository, relative to the directory of the document or,
after a slash, to the root of the repository; with a fragment it names a heading, and headings exist
only in the rendered document. A target that begins with the fragment names a heading of the document
itself. Some documents allow full addresses only.
-/

namespace LinkGate

inductive Target where
  /-- A file, by its path from the root of the repository. -/
  | localFile (path : Path)
  /-- A heading of a document of the repository. -/
  | anchor (document fragment : String)
  /-- A full web address. -/
  | remote (url : String)
deriving DecidableEq, Repr

/-- The rule of a document that a link breaks. -/
inductive Target.Violation where
  /-- A target is no full address where only those are allowed. -/
  | notAUrl
deriving DecidableEq, Repr

namespace Target

/-- A target that is a fragment alone names the document by its file name. -/
def withFileName (document : Path) (target : List Char) : List Char :=
  if target.head? = some '#' then (document.fileName?.getD "").toList ++ target else target

/-- What a row of characters beyond the directory names: up to the first number sign a document, and
behind it a heading. -/
def ofRootPath (directory target : List Char) : Target :=
  match target.dropWhile (· != '#') with
  | [] => .localFile ⟨String.ofList (directory ++ target)⟩
  | _ :: fragment =>
    .anchor (String.ofList (directory ++ target.takeWhile (· != '#'))) (String.ofList fragment)

def relative (document : Path) (target : List Char) : Target :=
  if target.head? = some '/' then ofRootPath [] (target.dropWhile (· == '/'))
  else ofRootPath document.directory.toList target

def classify (target : String) (document : Path) (allowLocal : Bool) : Except Violation Target :=
  if allowLocal then
    let named := withFileName document target.toList
    if isUrl (String.ofList named) then .ok (.remote (String.ofList named))
    else .ok (relative document named)
  else if isUrl target then .ok (.remote target)
  else .error .notAUrl

def anchorUrl (base document fragment : String) : String :=
  base ++ document ++ "#" ++ fragment

end Target

end LinkGate
