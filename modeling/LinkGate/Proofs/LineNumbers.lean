import LinkGate.Markdown.Link
import LinkGate.Proofs.ByteOrder

/-!
# Lines of byte positions

A line feed is a byte of its own in UTF-8, and its byte is part of no other character. Line feeds may
therefore be counted in the bytes of a text or in its characters, as long as the text is cut between two
characters. From one position to a later one the line grows by the line feeds between them.
-/

namespace LinkGate

/-! ## Bytes and characters -/

namespace Text

theorem bytes_append (s t : String) : bytes (s ++ t) = bytes s ++ bytes t := by
  rw [bytes_eq_flatMap, bytes_eq_flatMap, bytes_eq_flatMap, String.toList_append, List.flatMap_append]

theorem length_bytes (s : String) : (bytes s).length = s.utf8ByteSize :=
  Array.length_toList

theorem lineFeed_not_mem_continuation (number count : Nat) : 10 ∉ continuation number count := by
  induction count with
  | zero => exact List.not_mem_nil
  | succ count ih =>
      rw [continuation, List.mem_cons, not_or]
      refine ⟨?_, ih⟩
      intro same
      have value := congrArg UInt8.toNat same
      rw [UInt8.toNat_ofNat'] at value
      simp only [UInt8.reduceToNat] at value
      omega

theorem count_utf8EncodeChar (c : Char) : (String.utf8EncodeChar c).count 10 = [c].count '\n' := by
  obtain ⟨lead, count, written, bound, shape⟩ := utf8EncodeChar_eq_lead c
  have first : UInt8.ofNat (c.val.toNat / 64 ^ count + lead) = 10 ↔ c = '\n' := by
    rw [← UInt8.toNat_inj, UInt8.toNat_ofNat', Nat.mod_eq_of_lt bound, Char.ext_iff, ← UInt32.toNat_inj]
    change c.val.toNat / 64 ^ count + lead = 10 ↔ c.val.toNat = 10
    rcases shape with ⟨rfl, rfl, -⟩ | ⟨rfl, rfl, large, -⟩ | ⟨rfl, rfl, large, -⟩ | ⟨rfl, rfl, large, -⟩
    · rw [Nat.pow_zero, Nat.div_one, Nat.add_zero]
    · omega
    · omega
    · omega
  rw [written, List.count_cons, List.count_eq_zero.mpr (lineFeed_not_mem_continuation _ _), Nat.zero_add,
    List.count_singleton]
  simp only [beq_iff_eq, first]

theorem count_bytes (s : String) : (bytes s).count 10 = s.toList.count '\n' := by
  rw [bytes_eq_flatMap]
  induction s.toList with
  | nil => rfl
  | cons c rest ih =>
      rw [List.flatMap_cons, List.count_append, count_utf8EncodeChar, ih, ← List.count_append,
        List.singleton_append]

/-! ## Parts of a text -/

def Between (text : String) (first last : Nat) (part : String) : Prop :=
  ∃ before after, text = before ++ part ++ after ∧ before.utf8ByteSize = first ∧
    (before ++ part).utf8ByteSize = last

variable {text part : String} {first last : Nat}

/-- A text can be cut at the boundaries of its characters. -/
theorem exists_between (cutsFirst : (⟨first⟩ : String.Pos.Raw).IsValid text)
    (cutsLast : (⟨last⟩ : String.Pos.Raw).IsValid text) (inOrder : first ≤ last) :
    ∃ part, Between text first last part := by
  obtain ⟨front, after, rfl, endOfFront⟩ := String.Pos.Raw.isValid_iff_exists_append.mp cutsLast
  have size : front.utf8ByteSize = last := (congrArg String.Pos.Raw.byteIdx endOfFront).symm
  rcases String.Pos.Raw.isValid_append.mp cutsFirst with inside | ⟨beyond, -⟩
  · obtain ⟨before, part, rfl, endOfBefore⟩ := String.Pos.Raw.isValid_iff_exists_append.mp inside
    exact ⟨part, before, after, rfl, (congrArg String.Pos.Raw.byteIdx endOfBefore).symm, size⟩
  · have same : first = last := le_antisymm inOrder (size ▸ beyond)
    refine ⟨"", front, after, ?_, ?_, ?_⟩
    · rw [String.append_empty]
    · rw [size, same]
    · rw [String.append_empty, size]

end Text

/-! ## Lines -/

namespace Markdown

open Text

variable {text part : String} {first last : Nat}

/-- Of bytes that begin at a place, those of line feeds in front of a position. -/
theorem countP_lineFeeds (bytes : List UInt8) (place position : Nat) :
    ((bytes.zipIdx place).filterMap fun (byte, i) => if byte = 10 then some i else none).countP
      (· < position) = (bytes.take (position - place)).count 10 := by
  induction bytes generalizing place with
  | nil => rw [List.take_nil]; rfl
  | cons byte rest ih =>
      rw [List.zipIdx_cons, List.filterMap_cons]
      rcases Nat.lt_or_ge place position with before | behind
      · have next : position - place = position - (place + 1) + 1 := by omega
        rw [next, List.take_succ_cons, List.count_cons, ← ih (place + 1)]
        by_cases lineFeed : byte = 10
        · simp [lineFeed, before]
        · simp [lineFeed]
      · have none := ih (place + 1)
        rw [Nat.sub_eq_zero_of_le (Nat.le_succ_of_le behind), List.take_zero, List.count_nil] at none
        rw [Nat.sub_eq_zero_of_le behind, List.take_zero, List.count_nil]
        by_cases lineFeed : byte = 10
        · simp [lineFeed, none, behind]
        · simp [lineFeed, none]

/-- Line feeds in front of a position are those among the bytes in front of it. -/
theorem lineAt_lineFeeds (text : String) (position : Nat) :
    lineAt (lineFeeds text) position = ((bytes text).take position).count 10 + 1 := by
  rw [lineAt, lineFeeds, toList_eq_data]
  exact congrArg (· + 1) (countP_lineFeeds (bytes text) 0 position)

theorem lineAt_lineFeeds_zero (text : String) : lineAt (lineFeeds text) 0 = 1 := by
  rw [lineAt_lineFeeds, List.take_zero, List.count_nil]

theorem lineAt_le_lineAt (feeds : List Nat) (inOrder : first ≤ last) :
    lineAt feeds first ≤ lineAt feeds last := by
  apply Nat.succ_le_succ
  apply List.countP_mono_left
  intro feed _ before
  exact decide_eq_true (Nat.lt_of_lt_of_le (of_decide_eq_true before) inOrder)

/-- From one position to another the line grows by the line feeds between them. -/
theorem lineAt_of_between (between : Between text first last part) :
    lineAt (lineFeeds text) last = lineAt (lineFeeds text) first + part.toList.count '\n' := by
  obtain ⟨before, after, rfl, rfl, rfl⟩ := between
  have cutFirst : (bytes (before ++ part ++ after)).take before.utf8ByteSize = bytes before := by
    rw [bytes_append, bytes_append, List.append_assoc, List.take_left' (length_bytes before)]
  have cutLast : (bytes (before ++ part ++ after)).take (before ++ part).utf8ByteSize =
      bytes before ++ bytes part := by
    rw [bytes_append, ← bytes_append before, List.take_left' (length_bytes _)]
  rw [lineAt_lineFeeds, lineAt_lineFeeds, cutFirst, cutLast, List.count_append, count_bytes part]
  omega

theorem lineAt_eq_iff_of_between (between : Between text first last part) :
    lineAt (lineFeeds text) first = lineAt (lineFeeds text) last ↔ '\n' ∉ part.toList := by
  rw [lineAt_of_between between, Nat.left_eq_add, List.count_eq_zero]

theorem lineOf?_eq (text : String) (position : Nat) :
    lineOf? text position =
      if (⟨position⟩ : String.Pos.Raw).IsValid text then some (lineAt (lineFeeds text) position)
      else none := by
  by_cases valid : (⟨position⟩ : String.Pos.Raw).IsValid text
  · rw [if_pos valid]
    have cut : text.pos? ⟨position⟩ = some (text.pos ⟨position⟩ valid) := by
      rw [String.pos?, String.Slice.pos?, dif_pos (by simpa using valid)]
      rfl
    obtain ⟨divided, size⟩ := (text.pos ⟨position⟩ valid).splits
    have front : Between text 0 position (text.sliceTo (text.pos ⟨position⟩ valid)).copy := by
      refine ⟨"", (text.sliceFrom (text.pos ⟨position⟩ valid)).copy, ?_, rfl, ?_⟩
      · rw [String.empty_append]
        exact divided
      · rw [String.empty_append]
        exact (congrArg String.Pos.Raw.byteIdx size).symm
    rw [lineOf?, cut, Option.map_some, lineAt_of_between front, lineAt_lineFeeds_zero, Nat.add_comm]
  · rw [if_neg valid, lineOf?, String.pos?, String.Slice.pos?, dif_neg (by simpa using valid)]
    rfl

end Markdown

end LinkGate
