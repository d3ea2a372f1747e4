import LinkGate.Markdown.Source

/-!
# Links between angle brackets

`<https://example.test>` and `<me@example.test>`. Both are read after their `<`; the answer is the
position after the `>`.
-/

namespace LinkGate.Markdown

namespace Source

/-- An absolute URI: a scheme of 2 to 32 characters, a colon, and no blank, control or bracket up
to the `>`. -/
def uriEnd? (s : Source) (i : Nat) : Option Nat :=
  if s.is i Char.isAlpha then
    let j := s.skipWhile (fun c => c.isAlphanum || c == '.' || c == '-' || c == '+') (i + 1)
    if s.get? j = some ':' && 2 ≤ j - i && j - i ≤ 32 then
      let k := s.skipWhile (fun c => ' ' < c && c != '<' && c != '>') (j + 1)
      if s.get? k = some '>' then some (k + 1) else none
    else none
  else none

def isMailboxChar (c : Char) : Bool :=
  c.isAlphanum || ".!#$%&'*+/=?^_\x60\x7b|\x7d~-".toList.contains c

/-- The labels of a host name: each has 1 to 63 letters, digits and inner hyphens. -/
def hostLabelsEnd? (s : Source) (i : Nat) : Option Nat :=
  go (s.stop + 1) i
where
  go : Nat → Nat → Option Nat
    | 0, _ => none
    | fuel + 1, i =>
      let j := s.skipWhile isNameChar i
      if i = j || 63 < j - i || s.get? i = some '-' || s.get? (j - 1) = some '-' then none
      else if s.get? j = some '.' then go fuel (j + 1)
      else some j

def mailEnd? (s : Source) (i : Nat) : Option Nat :=
  let j := s.skipWhile isMailboxChar i
  if i < j && s.get? j = some '@' then
    (s.hostLabelsEnd? (j + 1)).bind fun k => if s.get? k = some '>' then some (k + 1) else none
  else none

end Source

end LinkGate.Markdown
