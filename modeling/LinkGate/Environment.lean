import LinkGate.Text.Whitespace

/-!
# The environment of a run

On a build server a few variables say what is built. A variable that holds nothing but blanks counts
as one that is not set.
-/

namespace LinkGate

/-- What a build server says about the job. -/
structure Environment where
  /-- The repository that the job runs for, as owner and name with a slash between them. -/
  repository : Option String
  /-- The commit that is tested. -/
  commit : Option String
  /-- The branch that a change is to be merged into. -/
  baseRef : Option String
deriving DecidableEq, Repr

namespace Environment

def empty : Environment := ⟨none, none, none⟩

def ofLookup (lookup : String → Option String) : Environment :=
  let value? (name : String) : Option String := (lookup name).filter (Text.trim · ≠ "")
  { repository := value? "GITHUB_REPOSITORY"
    commit := value? "GITHUB_SHA"
    baseRef := value? "GITHUB_BASE_REF" }

end Environment

end LinkGate
