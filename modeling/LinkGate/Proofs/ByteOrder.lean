import Mathlib.Data.String.Basic

/-!
# The order of texts and of their bytes

Texts are ordered by their characters. Their UTF-8 bytes are ordered in the same way: of two different
characters the smaller one has the smaller byte at the first place where their bytes differ, so the
order of two texts is decided at the same character by either.
-/

namespace LinkGate.Text

def bytes (s : String) : List UInt8 :=
  s.toUTF8.data.toList

theorem bytes_eq_flatMap (s : String) : bytes s = s.toList.flatMap String.utf8EncodeChar := by
  obtain ⟨chars, rfl⟩ := s.exists_eq_ofList
  simp [bytes, String.toUTF8, List.utf8Encode]

theorem toList_loop (bytes : ByteArray) (i : Nat) (read : List UInt8) :
    ByteArray.toList.loop bytes i read = read.reverse ++ bytes.data.toList.drop i := by
  fun_induction ByteArray.toList.loop bytes i read with
  | case1 i read inside ih =>
      have bound : i < bytes.data.toList.length := inside
      have next : bytes.get! i = bytes.data.toList[i] := getElem!_pos bytes.data i inside
      rw [ih, List.reverse_cons, List.append_assoc, List.drop_eq_getElem_cons bound, next,
        List.singleton_append]
  | case2 i read outside =>
      have beyond : bytes.data.toList.length ≤ i := Nat.le_of_not_lt outside
      rw [List.drop_eq_nil_of_le beyond, List.append_nil]

theorem toList_eq_data (bytes : ByteArray) : bytes.toList = bytes.data.toList :=
  toList_loop bytes 0 []

/-! ## Two characters -/

/-- The bytes behind the first one of a character, each with six bits of its number. -/
def continuation (number : Nat) : (count : Nat) → List UInt8
  | 0 => []
  | count + 1 =>
    UInt8.ofNat (number / 64 ^ count % 64 + 128) :: continuation number count

theorem ofNat_lt_ofNat {m n : Nat} (before : m < n) (bound : n < 256) :
    UInt8.ofNat m < UInt8.ofNat n := by
  rw [UInt8.lt_iff_toNat_lt, UInt8.toNat_ofNat', UInt8.toNat_ofNat']
  omega

theorem continuation_append_lt {v w count : Nat} (before : v % 64 ^ count < w % 64 ^ count)
    (rest others : List UInt8) : continuation v count ++ rest < continuation w count ++ others := by
  induction count with
  | zero => simp [Nat.mod_one] at before
  | succ count ih =>
      rw [Nat.mod_pow_succ, Nat.mod_pow_succ] at before
      rw [continuation, continuation, List.cons_append, List.cons_append, List.cons_lt_cons_iff]
      rcases Nat.lt_trichotomy (v / 64 ^ count % 64) (w / 64 ^ count % 64) with less | same | more
      · exact Or.inl (ofNat_lt_ofNat (by omega) (by omega))
      · rw [same] at before ⊢
        exact Or.inr ⟨rfl, ih (by omega)⟩
      · -- A larger group of bits outweighs all that follow it.
        have weight : 64 ^ count * (w / 64 ^ count % 64 + 1) ≤ 64 ^ count * (v / 64 ^ count % 64) :=
          Nat.mul_le_mul_left _ more
        have follows : w % 64 ^ count < 64 ^ count := Nat.mod_lt _ (Nat.pow_pos (by decide))
        rw [Nat.mul_add, Nat.mul_one] at weight
        omega

/-- Characters with equally many bytes, whose first bytes carry what the others do not. -/
theorem lead_append_lt {v w lead count : Nat} (before : v < w)
    (bound : w / 64 ^ count + lead < 256) (rest others : List UInt8) :
    UInt8.ofNat (v / 64 ^ count + lead) :: (continuation v count ++ rest) <
      UInt8.ofNat (w / 64 ^ count + lead) :: (continuation w count ++ others) := by
  rw [List.cons_lt_cons_iff]
  have quotients : v / 64 ^ count ≤ w / 64 ^ count := Nat.div_le_div_right (Nat.le_of_lt before)
  rcases Nat.lt_or_eq_of_le quotients with less | same
  · exact Or.inl (ofNat_lt_ofNat (by omega) bound)
  · refine Or.inr ⟨by rw [same], continuation_append_lt ?_ rest others⟩
    have first := Nat.div_add_mod v (64 ^ count)
    have second := Nat.div_add_mod w (64 ^ count)
    rw [same] at first
    omega

theorem utf8EncodeChar_eq_lead (c : Char) :
    ∃ lead count, String.utf8EncodeChar c =
        UInt8.ofNat (c.val.toNat / 64 ^ count + lead) :: continuation c.val.toNat count ∧
      c.val.toNat / 64 ^ count + lead < 256 ∧
      ((count = 0 ∧ lead = 0 ∧ c.val.toNat < 0x80) ∨
        (count = 1 ∧ lead = 0xc0 ∧ 0x80 ≤ c.val.toNat ∧ c.val.toNat < 0x800) ∨
        (count = 2 ∧ lead = 0xe0 ∧ 0x800 ≤ c.val.toNat ∧ c.val.toNat < 0x10000) ∨
        (count = 3 ∧ lead = 0xf0 ∧ 0x10000 ≤ c.val.toNat ∧ c.val.toNat < 0x110000)) := by
  have limit : c.val.toNat < 0x110000 := by
    have valid := c.valid
    simp only [UInt32.isValidChar, Nat.isValidChar] at valid
    omega
  simp only [String.utf8EncodeChar]
  generalize c.val.toNat = v at *
  split_ifs
  · refine ⟨0, 0, ?_, ?_, ?_⟩
    · simp [continuation]
    · omega
    · omega
  · refine ⟨0xc0, 1, ?_, ?_, ?_⟩
    · have small : v / 64 % 32 = v / 64 := Nat.mod_eq_of_lt (by omega)
      simp [continuation, small]
    · omega
    · omega
  · refine ⟨0xe0, 2, ?_, ?_, ?_⟩
    · have small : v / 4096 % 16 = v / 4096 := Nat.mod_eq_of_lt (by omega)
      simp [continuation, small]
    · omega
    · omega
  · refine ⟨0xf0, 3, ?_, ?_, ?_⟩
    · have small : v / 262144 % 8 = v / 262144 := Nat.mod_eq_of_lt (by omega)
      simp [continuation, small]
    · omega
    · omega

/-- The bytes of a smaller character come first, whatever follows either of the two. -/
theorem utf8EncodeChar_append_lt {c d : Char} (before : c < d) (rest others : List UInt8) :
    String.utf8EncodeChar c ++ rest < String.utf8EncodeChar d ++ others := by
  have values : c.val.toNat < d.val.toNat := before
  obtain ⟨lead, count, hc, boundc, shapec⟩ := utf8EncodeChar_eq_lead c
  obtain ⟨lead', count', hd, boundd, shaped⟩ := utf8EncodeChar_eq_lead d
  rw [hc, hd, List.cons_append, List.cons_append]
  -- The first bytes differ in what they carry or, if the lengths do, in how they are marked.
  by_cases same : count = count'
  · have leads : lead = lead' := by omega
    subst same leads
    exact lead_append_lt values boundd rest others
  · rw [List.cons_lt_cons_iff]
    refine Or.inl (ofNat_lt_ofNat ?_ boundd)
    rcases shapec with ⟨rfl, rfl, hc⟩ | ⟨rfl, rfl, hc⟩ | ⟨rfl, rfl, hc⟩ | ⟨rfl, rfl, hc⟩ <;>
      rcases shaped with ⟨rfl, rfl, hd⟩ | ⟨rfl, rfl, hd⟩ | ⟨rfl, rfl, hd⟩ | ⟨rfl, rfl, hd⟩ <;>
      simp only [Nat.reducePow, Nat.div_one] at boundc boundd ⊢ <;> omega

/-! ## Whole texts -/

theorem flatMap_utf8EncodeChar_lt {s t : List Char} (before : s < t) :
    s.flatMap String.utf8EncodeChar < t.flatMap String.utf8EncodeChar := by
  induction before with
  | @nil c cs =>
      rw [List.flatMap_nil, List.flatMap_cons]
      cases bytes : String.utf8EncodeChar c with
      | nil => exact absurd bytes String.utf8EncodeChar_ne_nil
      | cons first others => exact List.nil_lt_cons _ _
  | @cons c cs ds _ ih =>
      rw [List.flatMap_cons, List.flatMap_cons]
      exact List.append_left_lt ih
  | @rel c cs d ds first =>
      rw [List.flatMap_cons, List.flatMap_cons]
      exact utf8EncodeChar_append_lt first _ _

theorem prefix_of_flatMap_utf8EncodeChar {s t : List Char}
    (front : s.flatMap String.utf8EncodeChar <+: t.flatMap String.utf8EncodeChar) : s <+: t := by
  induction s generalizing t with
  | nil => exact List.nil_prefix
  | cons c s ih =>
      rw [List.flatMap_cons] at front
      cases t with
      | nil =>
          rw [List.flatMap_nil, List.prefix_nil, List.append_eq_nil_iff] at front
          exact absurd front.1 String.utf8EncodeChar_ne_nil
      | cons d t =>
          rw [List.flatMap_cons] at front
          obtain ⟨rest, same⟩ := front
          rw [List.append_assoc] at same
          -- Different characters would put the one row of bytes in front of itself.
          rcases lt_trichotomy c d with less | rfl | more
          · have before := utf8EncodeChar_append_lt less
              (s.flatMap String.utf8EncodeChar ++ rest) (t.flatMap String.utf8EncodeChar)
            rw [same] at before
            exact absurd before (List.lt_irrefl _)
          · exact List.cons_prefix_cons.mpr ⟨rfl, ih ⟨rest, List.append_cancel_left same⟩⟩
          · have before := utf8EncodeChar_append_lt more
              (t.flatMap String.utf8EncodeChar) (s.flatMap String.utf8EncodeChar ++ rest)
            rw [same] at before
            exact absurd before (List.lt_irrefl _)

/-- The order of texts is the order of their bytes. -/
theorem lt_iff_bytes_lt {s t : String} : s < t ↔ bytes s < bytes t := by
  rw [bytes_eq_flatMap, bytes_eq_flatMap]
  constructor
  · exact fun before => flatMap_utf8EncodeChar_lt before
  · intro before
    rcases lt_trichotomy s t with less | same | more
    · exact less
    · rw [same] at before
      exact absurd before (List.lt_irrefl _)
    · exact absurd before (List.lt_asymm (flatMap_utf8EncodeChar_lt more))

end LinkGate.Text
