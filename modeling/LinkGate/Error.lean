import LinkGate.Manifest.Decode

/-!
# Errors of a run

What makes a whole run meaningless. A link that does not work is no error; it is reported.
-/

namespace LinkGate

/-- Why a run has no report. -/
inductive RunError where
  /-- A command of `git` does not succeed. -/
  | gitFailed (command message : String)
  /-- A document whose links are to be checked cannot be read. -/
  | unreadableDocument (path : Path) (cause : ReadError)
  /-- The list of documents cannot be read. -/
  | invalidManifest (path : Path) (cause : Manifest.Error)
  /-- A link leads to a heading, and the address of rendered documents is not known. -/
  | anchorWithoutBase (document : Path) (target : String)
  /-- Only changed documents are to be checked, and there is nothing to compare with. -/
  | noTargetRepository
  /-- Requests cannot be made at all. -/
  | noClient (message : String)
deriving DecidableEq, Repr

def RunError.message : RunError → String
  | gitFailed command message => "git operation failed: \x60git " ++ command ++ "\x60: " ++ message
  | unreadableDocument path cause =>
    "failed to read document " ++ path.text ++ ": " ++ cause.message
  | invalidManifest path cause => "invalid manifest " ++ path.text ++ ": " ++ cause.message
  | anchorWithoutBase document target =>
    "'" ++ target ++ "' in " ++ document.text ++
      " needs a base URL to be checked; push the branch to an upstream on github.com"
  | noTargetRepository =>
    "no target repository to diff against; pass --target-repo or set GITHUB_REPOSITORY"
  | noClient message => "failed to build HTTP client: " ++ message

end LinkGate
