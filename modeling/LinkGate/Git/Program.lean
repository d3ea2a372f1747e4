import LinkGate.Git.Dialogue
import LinkGate.Text.Utf8
import LinkGate.Text.Whitespace

/-!
# The git program

Questions to `git` are asked by starting a program with arguments and reading what it writes. Blanks
at the ends of what it writes do not count.
-/

namespace LinkGate.Git

inductive Ending where
  /-- It cannot be started, for a reason of the system. -/
  | notStarted (reason : String)
  | exited (code : Nat) (output errors : ByteArray)

/-- What a program does when it is started with arguments, after it was started with others. -/
abbrev Program := (earlier : List (List String)) → (arguments : List String) → Ending

def Call.arguments : Call → List String
  | currentBranch => ["rev-parse", "--abbrev-ref", "HEAD"]
  | trackedBranch => ["rev-parse", "--abbrev-ref", "--symbolic-full-name", "@\x7bu\x7d"]
  | remoteUrl remote => ["remote", "get-url", remote]
  | fetch url refspec => ["fetch", url, refspec]
  | changedFiles older newer => ["diff", "--name-only", older ++ ".." ++ newer]

def Call.command (call : Call) : String :=
  " ".intercalate call.arguments

/-- What a program writes, without blanks at the ends; or, if it fails, what it writes about
that. -/
def Ending.text : Ending → Except String String
  | notStarted reason => .error ("failed to run git: " ++ reason)
  | exited 0 output _ => .ok (Text.trim (Text.Utf8.text output))
  | exited _ _ errors => .error (Text.trim (Text.Utf8.text errors))

/-- The lines of a text without the blanks at their ends, empty ones left out. -/
def trimmedLines (text : String) : List String :=
  ((text.toList.splitOn '\n').map fun line => Text.trim (String.ofList line)).filter (· ≠ "")

def Call.answerOfText : (call : Call) → String → call.Answer
  | currentBranch, text => text
  | trackedBranch, text => if text = "" then none else some text
  | remoteUrl _, text => text
  | fetch _ _, _ => ()
  | changedFiles _ _, text => (trimmedLines text).map Path.mk

/-- The answer to a question when a program does not answer it. A branch need not follow another
one. -/
def Call.answerOfFailure (message : String) (call : Call) : Except CommandFailure call.Answer :=
  match call with
  | trackedBranch => .ok none
  | call => .error ⟨call.command, message⟩

def Program.behaviour (program : Program) : Behaviour := fun earlier call =>
  match (program (earlier.map Call.arguments) call.arguments).text with
  | .ok text => .ok (call.answerOfText text)
  | .error message => call.answerOfFailure message

/-! ## Starting a program -/

def startFault? (files : Files) (directory : Path) (arguments : List String) : Option String :=
  if (directory.text :: arguments).any (·.contains '\x00') then
    some "nul byte found in provided data"
  else
    match files.read directory with
    | .error .isADirectory => none
    | .error e => some e.message
    | .ok _ => some ReadError.notADirectory.message

def Program.startedIn (files : Files) (directory : Path) (program : Program) : Program :=
  fun earlier arguments =>
    match startFault? files directory arguments with
    | some reason => .notStarted reason
    | none => program earlier arguments

def Program.missing : Program :=
  fun _ _ => .notStarted ReadError.notFound.message

end LinkGate.Git
