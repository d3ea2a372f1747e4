import LinkGate.Report.Basic

/-!
# Verdicts

Verdicts are gathered while documents are read. Local links are judged at once; the failures of web
addresses are added at the end, one for each place at which an address is written.
-/

namespace LinkGate

structure Verdicts where
  documentsChecked : List Path
  localLinksChecked : Nat
  failures : List Failure
deriving DecidableEq, Repr

namespace Verdicts

def empty : Verdicts := ⟨[], 0, []⟩

def documentChecked (v : Verdicts) (document : Path) : Verdicts :=
  { v with documentsChecked := v.documentsChecked ++ [document] }

def fail (v : Verdicts) (origin : Origin) (flaw : Flaw) : Verdicts :=
  { v with failures := v.failures ++ [⟨origin, flaw⟩] }

/-- Whether a path leads to something in a repository. An absolute path leads out of it. -/
def localExists (files : Files) (root path : Path) : Bool :=
  !path.isAbsolute && files.has (root.join path)

def checkLocal (v : Verdicts) (files : Files) (root path : Path) (origin : Origin) : Verdicts :=
  let counted : Verdicts := { v with localLinksChecked := v.localLinksChecked + 1 }
  if localExists files root path then counted
  else counted.fail origin (.missingLocalFile path)

def notAUrl (v : Verdicts) (origin : Origin) : Verdicts :=
  v.fail origin .notAUrl

def remoteFailures (links : LinkSet) (outcomes : List Outcome) : List Failure :=
  outcomes.flatMap fun outcome =>
    match outcome.status.flaw? outcome.url with
    | none => []
    | some flaw => (links.origins outcome.url).map (⟨·, flaw⟩)

def finish (v : Verdicts) (links : LinkSet) (outcomes : List Outcome) (context : Context) :
    Report where
  branch := context.branch
  mode := context.scope.mode
  documentsChecked := v.documentsChecked
  documentsSkipped := context.scope.skipped.map Document.path
  localLinksChecked := v.localLinksChecked
  outcomes := outcomes
  failures := v.failures ++ remoteFailures links outcomes

end Verdicts

end LinkGate
