import LinkGate.Context
import LinkGate.Report.Failure

/-!
# Reports

All that a run found out. A run passes if nothing failed.
-/

namespace LinkGate

structure Report where
  branch : String
  mode : Scope.Mode
  documentsChecked : List Path
  documentsSkipped : List Path
  localLinksChecked : Nat
  /-- What became of each web address, in increasing order of the addresses. -/
  outcomes : List Outcome
  failures : List Failure
deriving DecidableEq, Repr

def Scope.Mode.json : Scope.Mode → Json
  | full => .object [("mode", .string "full")]
  | changed targetRef => .object [("mode", .string "changed"), ("target_ref", .string targetRef)]

namespace Report

def passed (r : Report) : Bool :=
  r.failures.isEmpty

def remoteOkCount (r : Report) : Nat :=
  r.outcomes.countP Outcome.isOk

def json (r : Report) : Json :=
  .object
    [("branch", .string r.branch),
      ("scope", r.mode.json),
      ("documents_checked", .strings (r.documentsChecked.map Path.text)),
      ("documents_skipped", .strings (r.documentsSkipped.map Path.text)),
      ("local_links_checked", .number r.localLinksChecked),
      ("outcomes", .array (r.outcomes.map Outcome.json)),
      ("failures", .array (r.failures.map Failure.json))]

/-- The text of a report for other programs: one JSON value and a line end. -/
def jsonText (r : Report) : String :=
  r.json.prettyText ++ "\n"

end Report

end LinkGate
