import LinkGate.LinkSet
import LinkGate.Outcome

/-!
# Failures

A link that does not work is reported with the place at which it is written and what is wrong with it.
-/

namespace LinkGate

inductive Flaw where
  /-- There is no such file. -/
  | missingLocalFile (path : Path)
  /-- The document allows full addresses only. -/
  | notAUrl
  /-- A server answers with a code other than that of success. -/
  | badStatus (url : String) (code : UInt16)
  /-- No server answers. -/
  | transport (url : String) (error : TransportError)
deriving DecidableEq, Repr

def Flaw.fields : Flaw → List (String × Json)
  | missingLocalFile path => [("kind", .string "missing_local_file"), ("path", .string path.text)]
  | notAUrl => [("kind", .string "not_a_url")]
  | badStatus url code =>
    [("kind", .string "bad_status"), ("url", .string url), ("code", .number code.toNat)]
  | transport url error =>
    [("kind", .string "transport"), ("url", .string url), ("transport", .string error.kind.key),
      ("message", .string error.message)]

def Status.flaw? (url : String) : Status → Option Flaw
  | code value => if value = success then none else some (.badStatus url value)
  | failed error => some (.transport url error)

structure Failure where
  origin : Origin
  flaw : Flaw
deriving DecidableEq, Repr

namespace Failure

def json (f : Failure) : Json :=
  .object (f.origin.fields ++ f.flaw.fields)

def text (f : Failure) : String :=
  f.origin.document.text ++ ":" ++ toString f.origin.line ++ ": " ++
    match f.flaw with
    | .missingLocalFile path =>
      "local file '" ++ path.text ++ "' does not exist (link '" ++ f.origin.target ++ "')"
    | .notAUrl =>
      "'" ++ f.origin.target ++ "' is not a URL, only full URLs are allowed in this document"
    | .badStatus url code => "'" ++ url ++ "' gives code " ++ toString code.toNat
    | .transport url error => "'" ++ url ++ "' failed: " ++ error.message

end Failure

end LinkGate
