import LinkGate.Url.Basic
import LinkGate.Url.Domain
import LinkGate.Url.PercentEncoding

/-!
# Reading web addresses

An absolute address is read from left to right: scheme, user, host, port, path, query and fragment.
Blanks and control characters around it are dropped, and so are tabs and line ends anywhere. For the
special schemes a backslash counts as a slash and the number of slashes after the colon is free.
-/

namespace LinkGate.Url

/-- How the rest of an address is read, which depends on its scheme. -/
inductive Kind where
  /-- A scheme with a usual port. -/
  | network
  | file
  | other
deriving DecidableEq, Repr

def Kind.ofScheme (scheme : String) : Kind :=
  if scheme = "file" then .file else if (usualPort? scheme).isSome then .network else .other

def Kind.isSpecial (kind : Kind) : Bool :=
  kind != .other

def Kind.isSlash (kind : Kind) (c : Char) : Bool :=
  c == '/' || (kind.isSpecial && c == '\\')

def Kind.endsAuthority (kind : Kind) (c : Char) : Bool :=
  kind.isSlash c || c == '?' || c == '#'

/-- The characters of an address that count. -/
def significant (s : String) : List Char :=
  let isEdge (c : Char) : Bool := c.toNat ≤ 0x20
  let trimmed := (((s.toList.dropWhile isEdge).reverse).dropWhile isEdge).reverse
  trimmed.filter fun c => !(c == '\t' || c == '\n' || c == '\r')

/-! ## Scheme -/

def isSchemeChar (c : Char) : Bool :=
  c.isAlphanum || c == '+' || c == '-' || c == '.'

/-- Cuts off the scheme: a letter, more letters, digits and signs, and a colon. -/
def scheme? (s : List Char) : Option (String × List Char) :=
  let name := s.takeWhile isSchemeChar
  match s.head?.any Char.isAlpha, s.drop name.length with
  | true, ':' :: rest => some (String.ofList (name.map Char.toLower), rest)
  | _, _ => none

/-! ## Host -/

def utf8Text? (bytes : List UInt8) : Option (List Char) :=
  (String.fromUTF8? ⟨bytes.toArray⟩).map String.toList

def bracketedHost (s : List Char) : Except Error Host :=
  if s.getLast? = some ']' then
    match Ipv6.parse? s.dropLast with
    | some groups => .ok (.ipv6 groups)
    | none => .error .invalidIpv6
  else .error .invalidIpv6

def specialHost (s : List Char) : Except Error Host :=
  match s with
  | '[' :: rest => bracketedHost rest
  | _ =>
    match (utf8Text? (percentDecode s)).bind Domain.toAscii? with
    | none => .error .invalidDomain
    | some [] => .error .emptyHost
    | some name =>
      if Ipv4.endsInNumber name then
        match Ipv4.parse? name with
        | some address => .ok (.ipv4 address)
        | none => .error .invalidIpv4
      else .ok (.domain (String.ofList name))

def hostForbidden : List Char :=
  ['\x00', ' ', '#', '/', ':', '<', '>', '?', '@', '[', '\\', ']', '^', '|']

/-- The host of an address with any other scheme, whose meaning is not known. -/
def plainHost (s : List Char) : Except Error Host :=
  match s with
  | '[' :: rest => bracketedHost rest
  | _ =>
    if s.any hostForbidden.contains then .error .invalidHostCharacter
    else .ok (.domain (String.ofList (percentEncode [] s)))

/-- Cuts a host off its port: at the first colon that is not between square brackets. -/
def hostSpan (insideBrackets : Bool) : List Char → List Char × List Char
  | [] => ([], [])
  | c :: rest =>
    if c = ':' ∧ !insideBrackets then ([], c :: rest)
    else
      let inside := if c = '[' then true else if c = ']' then false else insideBrackets
      let (host, after) := hostSpan inside rest
      (c :: host, after)

/-- The port that a row of digits writes; a row that is empty or names the usual one gives none. -/
def readPort (scheme : String) (digits : List Char) : Except Error (Option Nat) :=
  match numberInBase? 10 digits with
  | none => .error .invalidPort
  | some n =>
    if 65535 < n then .error .invalidPort
    else if digits.isEmpty || usualPort? scheme == some n then .ok none
    else .ok (some n)

def user (s : List Char) : String × Option String :=
  let name := s.takeWhile (· != ':')
  let password := (s.drop name.length).drop 1
  let encode (part : List Char) : String := String.ofList (percentEncode userReserved part)
  (encode name, if password.isEmpty then none else some (encode password))

def splitUser (s : List Char) : Option (List Char) × List Char :=
  let host := (s.reverse.takeWhile (· != '@')).reverse
  if host.length = s.length then (none, s) else (some (s.take (s.length - host.length - 1)), host)

/-- Reads user, host and port, and returns the address so far with what follows. -/
def authority (kind : Kind) (scheme : String) (s : List Char) : Except Error (Url × List Char) := do
  let span := s.takeWhile (!kind.endsAuthority ·)
  let rest := s.drop span.length
  let (userPart, hostPart) := splitUser span
  let (username, password) := user (userPart.getD [])
  let (hostChars, portPart) := hostSpan false hostPart
  if hostChars.isEmpty && (kind.isSpecial || userPart.isSome || !portPart.isEmpty) then
    .error .emptyHost
  else
    let host ← if kind.isSpecial then specialHost hostChars else plainHost hostChars
    let digits := (portPart.drop 1).takeWhile (· != '\\')
    let port ← readPort scheme digits
    .ok ({ scheme, username, password, host := some host, port, path := "", query := none,
           fragment := none }, (portPart.drop 1).drop digits.length ++ rest)

/-! ## Path -/

def foldDots (segment : List Char) : List Char :=
  segment.map Char.toLower

def isSingleDot (segment : List Char) : Bool :=
  [".".toList, "%2e".toList].contains (foldDots segment)

def isDoubleDot (segment : List Char) : Bool :=
  ["..".toList, ".%2e".toList, "%2e.".toList, "%2e%2e".toList].contains (foldDots segment)

/-- Whether a segment is a letter and a colon or a bar, which names a drive. -/
def isDriveLetter : List Char → Bool
  | [letter, sign] => letter.isAlpha && (sign == ':' || sign == '|')
  | _ => false

/-- The segments without the last one, except that a drive stays. -/
def shorten (kind : Kind) : (latestFirst : List (List Char)) → List (List Char)
  | [] => []
  | [only] => if kind == .file && isDriveLetter only && only.getLast? == some ':' then [only] else []
  | _ :: rest => rest

/-- The segments between slashes, without those that only move about. A segment that moves and is
the last one leaves an empty one behind. -/
def walk (kind : Kind) : (latestFirst : List (List Char)) → List (List Char) → List (List Char)
  | done, [] => done.reverse
  | done, segment :: rest =>
    let done :=
      if isDoubleDot segment then shorten kind done else if isSingleDot segment then done
      else if kind == .file && done.isEmpty && isDriveLetter segment then
        (segment.take 1 ++ [':']) :: done
      else segment :: done
    let moves := isDoubleDot segment || isSingleDot segment
    walk kind (if moves && rest.isEmpty then [] :: done else done) rest

def pathText (kind : Kind) (s : List Char) : String :=
  let segments := (s.splitOnP kind.isSlash).map (percentEncode pathReserved)
  String.join ((walk kind [] segments).map fun segment => "/" ++ String.ofList segment)

def pathSpan (s : List Char) : List Char × List Char :=
  s.span fun c => c != '?' && c != '#'

/-- Adds the path, the query and the fragment that a text holds. A path under a special scheme is
never empty. -/
def withPath (kind : Kind) (u : Url) (s : List Char) : Url :=
  let (path, rest) := pathSpan s
  let path := match path with
    | [] => if kind.isSpecial then "/" else ""
    | c :: after => pathText kind (if kind.isSlash c then after else c :: after)
  withQuery kind { u with path } rest
where
  /-- Adds the query and the fragment. -/
  withQuery (kind : Kind) (u : Url) (s : List Char) : Url :=
    let query := s.takeWhile (· != '#')
    let fragment := s.drop query.length
    let reserved := if kind.isSpecial then specialQueryReserved else queryReserved
    { u with
      query := query.head?.map fun _ => String.ofList (percentEncode reserved (query.drop 1))
      fragment := fragment.head?.map fun _ =>
        String.ofList (percentEncode fragmentReserved (fragment.drop 1)) }

/-! ## Whole addresses -/

def ofScheme (scheme : String) : Url :=
  { scheme, username := "", password := none, host := none, port := none, path := "",
    query := none, fragment := none }

/-- Reads what follows the scheme of a file. The host of the machine itself is left out, and a drive
where a host is expected is part of the path. -/
def fileUrl (s : List Char) : Except Error Url :=
  let here : Url := { ofScheme "file" with host := some (.domain "") }
  match s with
  | a :: b :: rest =>
    if Kind.file.isSlash a && Kind.file.isSlash b then
      let span := rest.takeWhile (!Kind.file.endsAuthority ·)
      if span.isEmpty || isDriveLetter span then .ok (withPath .file here rest)
      else do
        let host ← specialHost span
        let host := if host = .domain "localhost" then .domain "" else host
        let u := withPath .file { here with host := some host } (rest.drop span.length)
        .ok (if isDriveLetter ((u.path.toList.drop 1).takeWhile (· != '/')) then
          { u with host := some (.domain "") } else u)
    else .ok (withPath .file here s)
  | _ => .ok (withPath .file here s)

/-- Reads what follows a scheme without a meaning of its own. Without a slash it is opaque. -/
def otherUrl (scheme : String) : List Char → Except Error Url
  | '/' :: '/' :: rest => do
    let (u, rest) ← authority .other scheme rest
    .ok (withPath .other u rest)
  | '/' :: rest => .ok (withPath .other (ofScheme scheme) ('/' :: rest))
  | s =>
    let (path, rest) := pathSpan s
    .ok (withPath.withQuery .other
      { ofScheme scheme with path := String.ofList (percentEncode [] path) } rest)

def parse (s : String) : Except Error Url :=
  match scheme? (significant s) with
  | none => .error .relativeWithoutBase
  | some (scheme, rest) =>
    match Kind.ofScheme scheme with
    | .network => do
      let (u, rest) ← authority .network scheme (rest.dropWhile Kind.network.isSlash)
      .ok (withPath .network u rest)
    | .file => fileUrl rest
    | .other => otherUrl scheme rest

end Url

def isUrl (s : String) : Bool :=
  match Url.parse s with
  | .ok u => u.isWeb
  | .error _ => false

end LinkGate
