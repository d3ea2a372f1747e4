import LinkGate.CommandLine.Help
import LinkGate.Git.Program
import LinkGate.Report.Table
import LinkGate.Run

/-!
# Sessions

A session is one call of the program: it reads the command line, finds out what to check, checks it
and writes the report. What it writes and the code by which it ends depend on nothing but the arguments
and the world around it. The code is 0 if all links work, 1 if some do not, and 2 if there is no report.
-/

namespace LinkGate

open CommandLine

structure World where
  files : Files
  environment : Environment
  /-- The `git` program in a directory. -/
  git : (directory : Path) → Git.Program
  /-- The network, for requests that may take a number of milliseconds. -/
  network : (timeout : Nat) → Except String Probe

structure Transcript where
  code : UInt8
  output : String
  errors : String
deriving DecidableEq, Repr

namespace Session

/-- The reason behind an error, if the error itself comes from elsewhere. -/
def reason? : RunError → Option String
  | .unreadableDocument _ cause => some cause.message
  | .noClient message => some message
  | _ => none

/-- The line about an error that ends a session: what was attempted, the error, and its reason. -/
def errorLine (attempt : Option String) (e : RunError) : String :=
  "Error: " ++ ": ".intercalate (attempt.toList ++ e.message :: (reason? e).toList) ++ "\n"

def notes (scope : Scope) : List String :=
  scope.skipped.map (fun document =>
    "⏭\ufe0f  Skipping link checking of " ++ document.path.text ++
      " because it is not changed in this branch") ++
  [if scope.documents.isEmpty then "✅ No documents in scope, nothing to check"
    else "📄 Checking links in " ++ toString scope.documents.length ++ " document(s)"]

/-- The transcript of a session whose notes go beside a report or before it. -/
def transcript (json : Bool) (notes output errors : String) (code : UInt8) : Transcript :=
  if json then ⟨code, output, notes ++ errors⟩ else ⟨code, notes ++ output, errors⟩

def context (options : Options) (world : World) : Except RunError Context :=
  let git := (world.git options.config.root).behaviour
  ((Context.build options.config world.files world.environment).run git []).1

def report (options : Options) (world : World) (context : Context) : Except RunError Report :=
  match world.network options.config.timeout with
  | .error message => .error (.noClient message)
  | .ok probe =>
    (context.run world.files options.config.retry options.config.maxConcurrency probe).result

def reportText (options : Options) (r : Report) : String :=
  if options.json then r.jsonText else r.tableText

def run (options : Options) (world : World) : Transcript :=
  match context options world with
  | .error e => ⟨2, "", errorLine (some "failed to determine what to check") e⟩
  | .ok context =>
    let notes := String.join ((notes context.scope).map (· ++ "\n"))
    match report options world context with
    | .error e => transcript options.json notes "" (errorLine none e) 2
    | .ok r => transcript options.json notes (reportText options r) "" (if r.passed then 0 else 1)

def refuse : Refusal → Transcript
  | .help isLong => ⟨0, helpText isLong, ""⟩
  | .version => ⟨0, versionText, ""⟩
  | refusal => ⟨2, "", refusal.text⟩

end Session

def session (arguments : List String) (world : World) : Transcript :=
  match parse arguments with
  | .error refusal => Session.refuse refusal
  | .ok options => Session.run options world

end LinkGate
