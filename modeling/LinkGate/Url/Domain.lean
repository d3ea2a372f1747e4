import LinkGate.Text.Canonical
import LinkGate.Text.Direction
import LinkGate.Text.Joining
import LinkGate.Url.DomainMapping
import LinkGate.Url.Punycode

/-!
# Domain names

A domain name is brought into the ASCII form in which it is looked up: its characters are mapped,
the result is normalized and cut into labels at the dots, every label is checked, and labels with
characters beyond ASCII are encoded. A label that is encoded already is decoded for the checks, and
has to be one that the mapping would leave as it is. Lengths are not checked.
-/

namespace LinkGate.Url.Domain

def forbidden : List Char :=
  [' ', '%', '#', '/', ':', '<', '>', '?', '@', '[', '\\', ']', '^', '|', '\x7f']

def isForbidden (c : Char) : Bool :=
  c.toNat < 0x20 || forbidden.contains c

def encodedMark : List Char := ['x', 'n', '-', '-']

def isAscii (s : List Char) : Bool :=
  s.all (·.toNat < 0x80)

/-! ## The checks of one label -/

/-- A virama, the sign that silences a vowel, has this combining class. -/
def viramaClass : Nat := 9

def followsVirama : List Char → Bool
  | [] => false
  | previous :: _ => Text.combiningClass previous == viramaClass

/-- The first character that is not transparent joins towards the place in question. -/
def joinsAcross (towards : Text.Joining) (s : List Char) : Bool :=
  match s.find? fun c => Text.joining c != .transparent with
  | none => false
  | some c => Text.joining c == towards || Text.joining c == .both

/-- Whether invisible joiners and non-joiners stand only where a script needs them. `before` is
what precedes, nearest first. -/
def joinersFit (before : List Char) : List Char → Bool
  | [] => true
  | c :: rest =>
    (if c = '\u200d' then followsVirama before
      else if c = '\u200c' then
        followsVirama before || (joinsAcross .left before && joinsAcross .right rest)
      else true) && joinersFit (c :: before) rest

def isValidLabel (label : List Char) : Bool :=
  label.all (!isForbidden ·) && !(label.head?.any Text.isMark) && joinersFit [] label

/-! ## Writing direction -/

def isRightToLeft (c : Char) : Bool :=
  match Text.direction c with
  | .rightToLeft | .arabicLetter | .arabicNumber => true
  | _ => false

def coreDirections (label : List Char) : List Text.Direction :=
  (((label.map Text.direction).reverse).dropWhile (· == .nonspacingMark)).reverse

/-- Whether a label follows the rule for writing direction: it begins with a letter, has characters
of the direction of that letter and neutral ones, ends in a letter or a number, and does not mix
two kinds of numbers from right to left. -/
def followsDirection (label : List Char) : Bool :=
  let neutral : List Text.Direction :=
    [.europeanNumber, .europeanSeparator, .commonSeparator, .europeanTerminator, .otherNeutral,
      .boundaryNeutral, .nonspacingMark]
  let core := coreDirections label
  match label.head?.map Text.direction with
  | none => true
  | some .leftToRight =>
    core.all (fun d => d == .leftToRight || neutral.contains d) &&
      core.getLast?.all [.leftToRight, .europeanNumber].contains
  | some first =>
    (first == .rightToLeft || first == .arabicLetter) &&
      core.all (fun d =>
        [.rightToLeft, .arabicLetter, .arabicNumber].contains d || neutral.contains d) &&
      core.getLast?.all [.rightToLeft, .arabicLetter, .europeanNumber, .arabicNumber].contains &&
      !(core.contains .europeanNumber && core.contains .arabicNumber)

/-! ## Whole names -/

def canonical? (s : List Char) : Option (List Char) :=
  (s.mapM DomainMapping.ofChar?).map fun images => Text.normalize images.flatten

/-- A label in Unicode: decoded if it is encoded. -/
def label? (label : List Char) : Option (List Char) :=
  if encodedMark.isPrefixOf label then
    if isAscii label then
      match Punycode.decode? (label.drop encodedMark.length) with
      | none => none
      | some decoded =>
        if !isAscii decoded && canonical? decoded = some decoded then some decoded else none
    else none
  else some label

def encodedLabel? (label : List Char) : Option (List Char) :=
  if isAscii label then some label else (Punycode.encode? label).map (encodedMark ++ ·)

def toAscii? (name : List Char) : Option (List Char) := do
  let canonical ← canonical? name
  let labels := canonical.splitOn '.'
  let decoded ← labels.mapM label?
  if decoded.all isValidLabel &&
      (!(decoded.any (·.any isRightToLeft)) || decoded.all followsDirection) then
    let encoded ← labels.mapM encodedLabel?
    some (['.'].intercalate encoded)
  else none

end LinkGate.Url.Domain
