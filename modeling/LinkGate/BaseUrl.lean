import LinkGate.Environment
import LinkGate.Git.Dialogue
import LinkGate.Repository

/-!
# The address of the rendered documents

Headings are looked up in rendered documents. These are found under the branch that is followed, or,
where none is followed, under the commit that is built.
-/

namespace LinkGate

open Git

def splitTracked? (tracked : String) : Option (String × String) :=
  (Text.splitOnce? '/' tracked.toList).map fun (remote, branch) =>
    (String.ofList remote, String.ofList branch)

def Environment.baseUrl? (environment : Environment) : Option String := do
  let repository ← Repository.ofShortName? (← environment.repository)
  repository.treeUrl (← environment.commit)

/-- Asks for the address of the rendered documents. A branch that is followed decides alone, also
when its remote has no rendered documents. -/
def resolveBaseUrl (environment : Environment) : Dialogue (Option String) := do
  match ← Dialogue.question .trackedBranch with
  | none => return environment.baseUrl?
  | some tracked =>
    match splitTracked? tracked with
    | none => return none
    | some (remote, branch) =>
      let url ← Dialogue.question (.remoteUrl remote)
      return (Repository.ofRemoteUrl? url).map (·.treeUrl branch)

end LinkGate
