/-!
# Switches

Everything that can be said on the command line is a switch, by itself or together with a value.
-/

namespace LinkGate.CommandLine

inductive Switch where
  | root | all | manifest | targetRef | targetRepo | backoffSecs | maxAttempts | timeoutSecs
  | maxConcurrency | json | verbose | logJson | help | version
deriving DecidableEq, Repr

inductive ValueKind where
  /-- A path, which is not empty. -/
  | path
  | text
  /-- A number of 64 bits. -/
  | number
  /-- A number of 32 bits that is not zero. -/
  | attempts
deriving DecidableEq, Repr

namespace Switch

def every : List Switch :=
  [root, all, manifest, targetRef, targetRepo, backoffSecs, maxAttempts, timeoutSecs,
    maxConcurrency, json, verbose, logJson, help, version]

def name : Switch → String
  | root => "root"
  | all => "all"
  | manifest => "manifest"
  | targetRef => "target-ref"
  | targetRepo => "target-repo"
  | backoffSecs => "backoff-secs"
  | maxAttempts => "max-attempts"
  | timeoutSecs => "timeout-secs"
  | maxConcurrency => "max-concurrency"
  | json => "json"
  | verbose => "verbose"
  | logJson => "log-json"
  | help => "help"
  | version => "version"

def letter? : Switch → Option Char
  | verbose => some 'v'
  | help => some 'h'
  | version => some 'V'
  | _ => none

def valueKind? : Switch → Option ValueKind
  | root | manifest => some .path
  | targetRef | targetRepo => some .text
  | backoffSecs | timeoutSecs | maxConcurrency => some .number
  | maxAttempts => some .attempts
  | _ => none

/-- Whether a switch only asks about the program. -/
def isQuestion (s : Switch) : Bool :=
  s == help || s == version

def choices : List Switch :=
  every.filter (!·.isQuestion)

/-- The name that stands for the value of a switch in explanations. -/
def valueName (s : Switch) : String :=
  "<" ++ String.ofList (s.name.toList.map fun c => if c = '-' then '_' else c.toUpper) ++ ">"

def text (s : Switch) : String :=
  "--" ++ s.name ++ if s.valueKind?.isSome then " " ++ s.valueName else ""

def ofName? (name : String) : Option Switch :=
  every.find? (·.name == name)

def ofLetter? (c : Char) : Option Switch :=
  every.find? (·.letter? == some c)

end Switch

end LinkGate.CommandLine
