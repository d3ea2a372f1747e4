import LinkGate.Outcome
import LinkGate.Text.Affix
import LinkGate.Url.Basic

/-!
# Requests that fail

A failed request carries flags and texts that say what went wrong. Its kind is read off the flags and,
where these do not tell, off words that occur in the texts, the address being one of them.
-/

namespace LinkGate

def Url.parts (u : Url) : List String :=
  [u.scheme, u.username, u.password.getD "", (u.host.map Url.Host.text).getD "", u.path,
    u.query.getD "", u.fragment.getD ""]

namespace Fetch

/-- What was being done when a request failed. -/
inductive Activity where
  /-- The request was being put together. -/
  | building
  /-- The request was being sent. -/
  | sending
deriving DecidableEq, Repr

def Activity.text : Activity → String
  | building => "builder error"
  | sending => "error sending request"

structure Failure where
  activity : Activity
  isTimeout : Bool
  isRedirect : Bool
  isConnect : Bool
  /-- The address that was asked for, if the text was one. -/
  url : Option Url
  /-- The chain of reasons. -/
  reason : String
deriving DecidableEq, Repr

namespace Failure

def text (f : Failure) : String :=
  f.activity.text ++ (f.url.map fun u => " for url (" ++ u.text ++ ")").getD "" ++ ": " ++ f.reason

/-- Whether a word occurs in any text of a failure. Upper and lower case do not differ; all these
texts are ASCII. -/
def mentions (f : Failure) (word : String) : Bool :=
  (f.reason :: (f.url.map Url.parts).getD []).any fun part =>
    Text.occursIn word.toList (part.toList.map Char.toLower)

def mentionsTls (f : Failure) : Bool :=
  f.mentions "certificate" || f.mentions "tls" || f.mentions "ssl"

def mentionsDns (f : Failure) : Bool :=
  f.mentions "dns" || f.mentions "resolve"

def kind (f : Failure) : TransportKind :=
  if f.isTimeout then .timeout
  else if f.isRedirect then .tooManyRedirects
  else if f.mentionsTls then .tls
  else if f.isConnect then if f.mentionsDns then .dns else .connect
  else .other

/-- What is reported of a failure. Only a failure of no special kind is reported in full. -/
def report (f : Failure) : TransportError where
  kind := f.kind
  message := match f.kind with
    | .timeout => "Request timed out"
    | .tooManyRedirects => "Too many redirects"
    | .tls => "SSL certificate error"
    | .dns => "Could not resolve hostname"
    | .connect => "Connection failed"
    | .other => f.text

end Failure

end Fetch

end LinkGate
