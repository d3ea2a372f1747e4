import LinkGate.Fetch.Offline
import LinkGate.Session

/-!
# The command

The outermost layer reads the arguments, the environment and the list of documents, and writes what a
session leaves behind. It starts no other program and opens no connection: there is no `git`, and no
request gets through.
-/

namespace LinkGate.Main

def readError : IO.Error → ReadError
  | .inappropriateType _ 21 _ => .isADirectory
  | .inappropriateType _ _ _ => .notADirectory
  | _ => .notFound

/-- The files as far as a session without `git` can see them: none but the list of documents. -/
def loadFiles (manifest : Option Path) : IO Files := do
  match manifest with
  | none => return ⟨fun _ => .error .notFound, fun _ => false⟩
  | some path =>
    let content ← (IO.FS.readBinFile path.text).toBaseIO
    let answer : Except ReadError ByteArray := match content with
      | .ok bytes => .ok bytes
      | .error e => .error (readError e)
    return ⟨fun p => if p = path then answer else .error .notFound, fun _ => false⟩

def loadEnvironment : IO Environment := do
  let names := ["GITHUB_REPOSITORY", "GITHUB_SHA", "GITHUB_BASE_REF"]
  let values ← names.mapM fun name => IO.getEnv name
  return .ofLookup fun name => ((names.zip values).lookup name).join

end LinkGate.Main

open LinkGate in
def main (arguments : List String) : IO UInt32 := do
  let manifest := match CommandLine.parse arguments with
    | .ok options => options.config.manifest
    | .error _ => none
  let world : World :=
    { files := ← Main.loadFiles manifest
      environment := ← Main.loadEnvironment
      git := fun _ => Git.Program.missing
      network := fun _ => .ok Fetch.offline }
  let transcript := session arguments world
  IO.print transcript.output
  IO.eprint transcript.errors
  return transcript.code.toUInt32
