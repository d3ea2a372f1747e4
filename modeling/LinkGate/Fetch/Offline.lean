import LinkGate.Check.Retry
import LinkGate.Fetch.Failure
import LinkGate.Url.Parser

/-!
# Requests without a network

Where no connection can be made every request fails, and the address alone decides at which step. A
text has to be an address that names a host, over a protocol of web pages, and fit into a request. Then
the name of the host has to be looked up, which only the name of the machine itself allows.
-/

namespace LinkGate.Fetch

def buildFailure (url : Option Url) (reason : String) : Failure :=
  ⟨.building, false, false, false, url, reason⟩

def connectFailure (url : Url) (reason : String) : Failure :=
  ⟨.sending, false, false, true, some url, reason⟩

/-- An address without the name and password of a user, which a request carries elsewhere. They stay
where they are if they are not UTF-8 beneath their encoding. -/
def withoutUser (u : Url) : Url :=
  let readable (s : String) : Bool := (Url.utf8Text? (Url.percentDecode s.toList)).isSome
  if readable u.username && (u.username ≠ "" || u.password.any readable) then
    { u with username := "", password := none }
  else u

/-- The most bytes of an address in a request. -/
def lengthLimit : Nat := 65534

def fits (u : Url) : Bool :=
  u.text.utf8ByteSize ≤ lengthLimit &&
    !u.authorityText.toList.any fun c => ['"', '\x60', '\x7b', '\x7d'].contains c

def connectReason (u : Url) : String :=
  if u.scheme == "https" then "invalid URL, scheme is not http"
  else
    match u.host with
    | some (.domain name) =>
      if name == "localhost" then "tcp connect error" else "dns error: name not known"
    | _ => "tcp connect error"

def offlineFailure (text : String) : Failure :=
  match Url.parse text with
  | .error e => buildFailure none e.message
  | .ok url =>
    let bare := withoutUser url
    if !url.hasHost then buildFailure (some url) "URL scheme is not allowed"
    else if !bare.isWeb then buildFailure (some bare) "URL scheme is not allowed"
    else if !fits bare then buildFailure (some bare) "Parsed Url is not a valid Uri"
    else connectFailure bare (connectReason bare)

/-- A network that cannot be reached: every request fails at once. -/
def offline : Probe :=
  fun url _ => ⟨.failed (offlineFailure url).report, 0⟩

end LinkGate.Fetch
