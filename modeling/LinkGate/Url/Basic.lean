import LinkGate.Url.Address

/-!
# Web addresses

The parts of an absolute web address, the text that they are written as, and what can be wrong with
a text that should be one.
-/

namespace LinkGate

inductive Url.Host where
  | domain (name : String)
  | ipv4 (address : UInt32)
  /-- Eight groups of sixteen bits. -/
  | ipv6 (groups : List Nat)
deriving DecidableEq, Repr

def Url.Host.text : Url.Host → String
  | domain name => name
  | ipv4 address => Url.Ipv4.text address
  | ipv6 groups => "[" ++ Url.Ipv6.text groups ++ "]"

/-- An absolute address, its parts being encoded as they are written. -/
structure Url where
  /-- In lower case and without its colon. -/
  scheme : String
  username : String
  password : Option String
  /-- Missing if nothing after the scheme says where to go. -/
  host : Option Url.Host
  /-- Missing if it is the usual one of the scheme. -/
  port : Option Nat
  path : String
  query : Option String
  fragment : Option String
deriving DecidableEq, Repr

inductive Url.Error where
  | relativeWithoutBase
  | emptyHost
  | invalidDomain
  | invalidPort
  | invalidIpv4
  | invalidIpv6
  | invalidHostCharacter
deriving DecidableEq, Repr

namespace Url

def Error.message : Error → String
  | relativeWithoutBase => "relative URL without a base"
  | emptyHost => "empty host"
  | invalidDomain => "invalid international domain name"
  | invalidPort => "invalid port number"
  | invalidIpv4 => "invalid IPv4 address"
  | invalidIpv6 => "invalid IPv6 address"
  | invalidHostCharacter => "invalid domain character"

/-- The schemes whose addresses always name a host, with their usual ports. -/
def usualPort? : String → Option Nat
  | "http" => some 80
  | "https" => some 443
  | "ws" => some 80
  | "wss" => some 443
  | "ftp" => some 21
  | _ => none

def userText (u : Url) : String :=
  let password := (u.password.map (":" ++ ·)).getD ""
  if u.username.isEmpty && password.isEmpty then "" else u.username ++ password ++ "@"

def authorityText (u : Url) : String :=
  match u.host with
  | none => if u.path.startsWith "//" then "/." else ""
  | some host =>
    "//" ++ u.userText ++ host.text ++ (u.port.map fun port => ":" ++ toString port).getD ""

def text (u : Url) : String :=
  u.scheme ++ ":" ++ u.authorityText ++ u.path ++ (u.query.map ("?" ++ ·)).getD "" ++
    (u.fragment.map ("#" ++ ·)).getD ""

def hasHost (u : Url) : Bool :=
  u.host.any (· != .domain "")

def isWeb (u : Url) : Bool :=
  u.scheme == "http" || u.scheme == "https"

end Url

end LinkGate
