/-!
# UTF-8 with faults

Bytes that are not all well-formed UTF-8 are read as far as they can be. In place of each run of bytes
that begins a character and does not complete it, and of each byte that begins none, stands one
replacement character.
-/

namespace LinkGate.Text.Utf8

def replacement : Char := '\uFFFD'

/-- The bits that a first byte gives to a character, and the bounds of each byte that has to
follow. -/
structure Lead where
  bits : Nat
  bounds : List (Nat × Nat)
deriving DecidableEq, Repr

def following : Nat × Nat := (0x80, 0xBF)

/-- What a byte says that begins a character. The bounds of the second byte leave out longer forms
of characters that have shorter ones, surrogates, and numbers that are too large. -/
def lead? (byte : Nat) : Option Lead :=
  if byte < 0x80 then some ⟨byte, []⟩
  else if byte < 0xC2 then none
  else if byte < 0xE0 then some ⟨byte - 0xC0, [following]⟩
  else if byte < 0xF0 then
    let second := if byte = 0xE0 then (0xA0, 0xBF) else if byte = 0xED then (0x80, 0x9F) else following
    some ⟨byte - 0xE0, [second, following]⟩
  else if byte < 0xF5 then
    let second := if byte = 0xF0 then (0x90, 0xBF) else if byte = 0xF4 then (0x80, 0x8F) else following
    some ⟨byte - 0xF0, [second, following, following]⟩
  else none

/-- Reads the bytes that follow a first byte, six bits each. Without an answer the bytes do not
complete the character; the bytes that are left begin with the one that does not belong to it. -/
def complete (bits : Nat) : List (Nat × Nat) → List UInt8 → Option Nat × List UInt8
  | [], bytes => (some bits, bytes)
  | _ :: _, [] => (none, [])
  | (low, high) :: bounds, byte :: bytes =>
    if low ≤ byte.toNat ∧ byte.toNat ≤ high then
      complete (bits * 64 + (byte.toNat - 0x80)) bounds bytes
    else (none, byte :: bytes)

theorem length_complete_le (bits : Nat) (bounds : List (Nat × Nat)) (bytes : List UInt8) :
    (complete bits bounds bytes).2.length ≤ bytes.length := by
  induction bounds generalizing bits bytes with
  | nil => simp [complete]
  | cons bound bounds ih =>
    cases bytes with
    | nil => simp [complete]
    | cons byte bytes =>
      obtain ⟨low, high⟩ := bound
      unfold complete
      split
      · exact Nat.le_succ_of_le (ih _ _)
      · simp

def decode : List UInt8 → List Char
  | [] => []
  | byte :: bytes =>
    match lead? byte.toNat with
    | none => replacement :: decode bytes
    | some lead =>
      let completed := complete lead.bits lead.bounds bytes
      (completed.1.map Char.ofNat).getD replacement :: decode completed.2
termination_by bytes => bytes.length
decreasing_by
  · simp
  · exact Nat.lt_succ_of_le (length_complete_le _ _ _)

def text (bytes : ByteArray) : String :=
  String.ofList (decode bytes.toList)

end LinkGate.Text.Utf8
