import LinkGate.Scope

/-!
# The context of a run

What is found out about a repository before any document is read.
-/

namespace LinkGate

open Git

structure Context where
  /-- The root of the repository. -/
  root : Path
  branch : String
  /-- The address of the rendered documents, if there is one. -/
  baseUrl : Option String
  scope : Scope
deriving DecidableEq, Repr

namespace Context

def listedDocuments (files : Files) (path : Path) : Except RunError (List Document) :=
  match Manifest.load files path with
  | .error cause => .error (.invalidManifest path cause)
  | .ok documents => .ok documents

def documents (config : Config) (files : Files) : Except RunError (List Document) :=
  match config.manifest with
  | none => .ok Document.standard
  | some path => listedDocuments files path

/-- Asks for everything that a run has to know. Without a list of documents nothing is asked. -/
def build (config : Config) (files : Files) (environment : Environment) : Dialogue Context := do
  let documents ← Dialogue.done (documents config files)
  let branch ← Dialogue.question .currentBranch
  let baseUrl ← resolveBaseUrl environment
  let scope ← Scope.select config environment branch documents
  return { root := config.root, branch, baseUrl, scope }

end Context

end LinkGate
