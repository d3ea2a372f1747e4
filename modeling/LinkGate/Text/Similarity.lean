/-!
# Similar words

How alike two words are: by the characters that they share at about the same place, and by how many of
these are out of order. The measure is a fraction between zero and one.
-/

namespace LinkGate.Text

/-- Takes the first occurrence of a character, not before `low` and before `high`, among those that
are still free. Places that are taken hold nothing. -/
def takePartner? (c : Char) (low : Nat) : (high : Nat) → List (Option Char) → Option (List (Option Char))
  | 0, _ => none
  | _, [] => none
  | high + 1, place :: rest =>
    if low = 0 ∧ place = some c then some (none :: rest)
    else (takePartner? c (low - 1) high rest).map (place :: ·)

/-- The characters of a word, from place `i` on, that find a partner in another word not farther away
than `range`; and what is free in the other word at the end. -/
def partners (range : Nat) : (i : Nat) → List Char → List (Option Char) →
    List Char × List (Option Char)
  | _, [], free => ([], free)
  | i, c :: rest, free =>
    match takePartner? c (i - range) (i + range + 1) free with
    | none => partners range (i + 1) rest free
    | some free =>
      let (shared, free) := partners range (i + 1) rest free
      (c :: shared, free)

structure Ratio where
  numerator : Nat
  denominator : Nat
deriving DecidableEq, Repr

def Ratio.atLeast (a b : Ratio) : Bool :=
  b.numerator * a.denominator ≤ a.numerator * b.denominator

/-- How alike two words are: the mean of the shares that their common characters have in each of
them, and of the share of those that are in order. -/
def similarity (a b : List Char) : Ratio :=
  let range := max a.length b.length / 2 - 1
  let (shared, free) := partners range 0 a (b.map some)
  let sharedInB := (b.zip free).filterMap fun (c, place) => if place.isNone then some c else none
  let m := shared.length
  let moved := (shared.zip sharedInB).countP (fun (x, y) => x != y) / 2
  if m = 0 then ⟨0, 1⟩
  else
    ⟨m * b.length * m + m * a.length * m + (m - moved) * a.length * b.length,
      3 * a.length * b.length * m⟩

/-- The share from which on two words count as similar, which itself does not. -/
def similarityBound : Ratio := ⟨7, 10⟩

/-- The item whose name is most like a word, if one is similar at all; the last one of several. -/
def mostSimilar? {α : Type} (name : α → String) (word : String) (items : List α) : Option α :=
  let best := items.foldl (fun (best : Option (α × Ratio)) item =>
    let ratio := similarity word.toList (name item).toList
    let previous := (best.map (·.2)).getD similarityBound
    if similarityBound.atLeast ratio || !ratio.atLeast previous then best else some (item, ratio)) none
  best.map (·.1)

end LinkGate.Text
