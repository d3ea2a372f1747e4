import LinkGate.BaseUrl
import LinkGate.Config

/-!
# The documents that are checked

Requests take time, and servers limit them. On the main branch and on release branches all documents
are checked, on other branches only those that the branch changes. A document that is left out has not
passed; it was not looked at.
-/

namespace LinkGate

open Git

inductive Scope.Mode where
  | full
  /-- Those that differ from a branch. -/
  | changed (targetRef : String)
deriving DecidableEq, Repr

/-- The documents, divided into those that are checked and those that are not, each in the order of
the list. -/
structure Scope where
  mode : Scope.Mode
  documents : List Document
  skipped : List Document
deriving DecidableEq, Repr

namespace Scope

def standardTargetRef : String := "main"

/-- The name under which the branch to compare with is fetched. -/
def localTargetRef : String := "_doclinks_target_ref"

def whole (documents : List Document) : Scope := ⟨.full, documents, []⟩

def isFullBranch (branch : String) : Bool :=
  branch == "main" || Text.occursIn "release/".toList branch.toList

def targetRef (config : Config) (environment : Environment) : String :=
  (config.targetRef.or environment.baseRef).getD standardTargetRef

def targetUrl (config : Config) (environment : Environment) : Dialogue String :=
  match config.targetRepository.or environment.repository with
  | some repository => return Repository.cloneUrl repository
  | none => do
    match (← Dialogue.question .trackedBranch).bind splitTracked? with
    | some (remote, _) => Dialogue.question (.remoteUrl remote)
    | none => .done (.error .noTargetRepository)

def ofChanges (targetRef : String) (changed : List Path) (documents : List Document) : Scope :=
  let names := changed.map Path.identity
  let (selected, skipped) := documents.partition fun d => names.contains d.path.identity
  ⟨.changed targetRef, selected, skipped⟩

/-- The warning that a document is left out. Blanks at the end of a warning are not shown. -/
def skipWarning (targetRef : String) (document : Document) : String :=
  Text.trim
    ("WARN skipping link checking, document is not changed relative to the target branch document=" ++
      document.path.text ++ " target_ref=" ++ targetRef)

/-- Asks which documents are to be checked, and warns of each that is left out. -/
def select (config : Config) (environment : Environment) (branch : String)
    (documents : List Document) : Dialogue Scope :=
  if config.checkAll || isFullBranch branch then return whole documents
  else do
    let ref := targetRef config environment
    let url ← targetUrl config environment
    Dialogue.question (.fetch url ("+" ++ ref ++ ":" ++ localTargetRef))
    let changed ← Dialogue.question (.changedFiles localTargetRef "HEAD")
    let scope := ofChanges ref changed documents
    scope.skipped.forM fun document => Dialogue.warning (skipWarning ref document)
    return scope

end Scope

end LinkGate
