/-!
# Cutting texts

Taking fixed texts off the ends of a text, once or as often as they are there.
-/

namespace LinkGate.Text

def stripStart? (mark s : List Char) : Option (List Char) :=
  if mark.isPrefixOf s then some (s.drop mark.length) else none

def stripEnd? (mark s : List Char) : Option (List Char) :=
  if mark.isSuffixOf s then some (s.take (s.length - mark.length)) else none

/-- A row of characters without any number of copies of another one at its beginning. -/
def stripRepeated (mark s : List Char) : List Char :=
  if _h : mark ≠ [] ∧ mark.isPrefixOf s then stripRepeated mark (s.drop mark.length) else s
termination_by s.length
decreasing_by
  have h₁ : 0 < mark.length := List.length_pos_iff.2 _h.1
  have h₂ : mark.length ≤ s.length := (List.isPrefixOf_iff_prefix.1 _h.2).length_le
  simp only [List.length_drop]
  omega

def dropEndWhile (c : Char) (s : List Char) : List Char :=
  (s.reverse.dropWhile (· == c)).reverse

def dropEnds (c : Char) (s : List Char) : List Char :=
  dropEndWhile c (s.dropWhile (· == c))

/-- Cuts a row of characters at the first of a character, which belongs to neither part. -/
def splitOnce? (c : Char) (s : List Char) : Option (List Char × List Char) :=
  match s.dropWhile (· != c) with
  | [] => none
  | _ :: after => some (s.takeWhile (· != c), after)

def occursIn (part : List Char) : List Char → Bool
  | [] => part.isEmpty
  | c :: rest => part.isPrefixOf (c :: rest) || occursIn part rest

theorem occursIn_iff {part s : List Char} : occursIn part s = true ↔ part <:+: s := by
  induction s with
  | nil => rw [occursIn, List.isEmpty_iff, List.infix_nil]
  | cons c rest ih =>
      rw [occursIn, Bool.or_eq_true, List.isPrefixOf_iff_prefix, ih, List.infix_cons_iff]

end LinkGate.Text
