import LinkGate.Check.Retry
import LinkGate.Path

/-!
# Configurations

What a run is asked to do.
-/

namespace LinkGate

structure Config where
  /-- The root of the repository. -/
  root : Path
  /-- Whether documents are checked that did not change. -/
  checkAll : Bool
  /-- The file that lists the documents, in place of the standard ones. -/
  manifest : Option Path
  /-- The branch to compare with. -/
  targetRef : Option String
  /-- The repository that has this branch. -/
  targetRepository : Option String
  retry : RetryPolicy
  /-- Milliseconds that a request may take. -/
  timeout : Nat
  /-- How many requests may be under way at once, if there is a limit. -/
  maxConcurrency : Option Nat
deriving DecidableEq, Repr

def Config.standard (root : Path) : Config where
  root := root
  checkAll := false
  manifest := none
  targetRef := none
  targetRepository := none
  retry := RetryPolicy.standard
  timeout := 10 * 1000
  maxConcurrency := none

end LinkGate
