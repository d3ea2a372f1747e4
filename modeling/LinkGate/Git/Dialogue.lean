import LinkGate.Error

/-!
# Conversations with git

A run asks `git` a few questions, one after the other, and what it asks may depend on the answers. A
conversation is such a course of questions, told without saying what `git` answers. It also hears of a
command that did not succeed, and decides how to go on. On its way it may warn of something.
-/

namespace LinkGate.Git

inductive Call where
  /-- The name of the branch that is checked out. -/
  | currentBranch
  /-- The branch that is followed, as the name of a remote, a slash and the name of the branch. -/
  | trackedBranch
  /-- The address of a remote. -/
  | remoteUrl (remote : String)
  /-- Whether something can be fetched from an address. -/
  | fetch (url refspec : String)
  /-- The files in which two commits differ. -/
  | changedFiles (older newer : String)
deriving DecidableEq, Repr

abbrev Call.Answer : Call → Type
  | currentBranch => String
  | trackedBranch => Option String
  | remoteUrl _ => String
  | fetch _ _ => Unit
  | changedFiles _ _ => List Path

structure CommandFailure where
  command : String
  message : String
deriving DecidableEq, Repr

/-- How `git` answers a question after earlier ones, the first of them first. -/
abbrev Behaviour := (earlier : List Call) → (call : Call) → Except CommandFailure call.Answer

/-- A conversation that leads to a value or to an error. -/
inductive Dialogue (α : Type) where
  /-- Nothing more is asked. -/
  | done (result : Except RunError α)
  | ask (call : Call) (next : Except CommandFailure call.Answer → Dialogue α)
  | warn (text : String) (next : Dialogue α)

namespace Dialogue

def bind {α β : Type} : Dialogue α → (α → Dialogue β) → Dialogue β
  | done (.error e), _ => done (.error e)
  | done (.ok value), next => next value
  | ask call following, next => ask call fun answer => (following answer).bind next
  | warn text following, next => warn text (following.bind next)

instance : Monad Dialogue where
  pure value := done (.ok value)
  bind := bind

/-- A single question. If the command does not succeed, that is the error. -/
def question (call : Call) : Dialogue call.Answer :=
  ask call fun
    | .ok answer => done (.ok answer)
    | .error failure => done (.error (.gitFailed failure.command failure.message))

def warning (text : String) : Dialogue Unit :=
  warn text (done (.ok ()))

/-- What a conversation leads to, and the questions that were asked, those asked before it
included. -/
def run {α : Type} (git : Behaviour) (earlier : List Call) :
    Dialogue α → Except RunError α × List Call
  | done result => (result, earlier)
  | ask call next => (next (git earlier call)).run git (earlier ++ [call])
  | warn _ next => next.run git earlier

/-- What a conversation warns of, the first warning first. -/
def warnings {α : Type} (git : Behaviour) (earlier : List Call) : Dialogue α → List String
  | done _ => []
  | ask call next => (next (git earlier call)).warnings git (earlier ++ [call])
  | warn text next => text :: next.warnings git earlier

end Dialogue

end LinkGate.Git
