import LinkGate.Json

/-!
# Outcomes of requests

A request ends with the status code of a response, or without any response. The outcome of an
address is the end of its last request together with the number of requests made.
-/

namespace LinkGate

inductive TransportKind where
  | timeout
  /-- The name of the host has no address. -/
  | dns
  /-- No secure connection can be made. -/
  | tls
  /-- The connection is refused or broken off. -/
  | connect
  | tooManyRedirects
  | other
deriving DecidableEq, Repr

def TransportKind.label : TransportKind → String
  | timeout => "Timeout"
  | dns => "Dns"
  | tls => "Tls"
  | connect => "Connect"
  | tooManyRedirects => "TooManyRedirects"
  | other => "Other"

def TransportKind.key : TransportKind → String
  | timeout => "timeout"
  | dns => "dns"
  | tls => "tls"
  | connect => "connect"
  | tooManyRedirects => "too_many_redirects"
  | other => "other"

structure TransportError where
  kind : TransportKind
  message : String
deriving DecidableEq, Repr

def TransportError.text (e : TransportError) : String :=
  e.kind.label ++ ": " ++ e.message

def TransportError.fields (e : TransportError) : List (String × Json) :=
  [("kind", .string e.kind.key), ("message", .string e.message)]

inductive Status where
  /-- The server answers with a status code. -/
  | code (value : UInt16)
  | failed (error : TransportError)
deriving DecidableEq, Repr

namespace Status

def success : UInt16 := 200

/-- The code by which a server asks for a pause. -/
def rateLimited : UInt16 := 429

def isOk (s : Status) : Bool :=
  s == .code success

def isRateLimited (s : Status) : Bool :=
  s == .code rateLimited

def fields : Status → List (String × Json)
  | code value => [("result", .string "status"), ("code", .number value.toNat)]
  | failed error => ("result", .string "transport") :: error.fields

end Status

structure Outcome where
  url : String
  status : Status
  /-- How many requests were made. -/
  attempts : Nat
deriving DecidableEq, Repr

namespace Outcome

def isOk (o : Outcome) : Bool :=
  o.status.isOk

/-- An outcome in JSON; the fields of the status stand between those of the outcome. -/
def json (o : Outcome) : Json :=
  .object (("url", .string o.url) :: o.status.fields ++ [("attempts", .number o.attempts)])

end Outcome

end LinkGate
