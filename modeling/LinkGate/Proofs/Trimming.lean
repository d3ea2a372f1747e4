import LinkGate.Text.Whitespace
import Mathlib.Data.List.DropRight
import Mathlib.Data.List.Infix

/-!
# Trimming

Whitespace in front of a text and behind it makes no difference to the trimmed text, and inside of it nothing
is left out. What is left of a text has whitespace at neither of its ends and is not trimmed any further.
-/

namespace LinkGate.Text

variable {c : Char} {blanks : List Char}

/-! ## Whitespace that is left out -/

theorem trimStart_cons (blank : isWhitespace c = true) (s : List Char) :
    trimStart (c :: s) = trimStart s :=
  List.dropWhile_cons_of_pos blank

theorem trimEnd_concat (blank : isWhitespace c = true) (s : List Char) :
    trimEnd (s ++ [c]) = trimEnd s := by
  rw [trimEnd, List.reverse_append, List.reverse_singleton, List.singleton_append,
    trimStart_cons blank, trimEnd]

theorem trimStart_cons_of_visible (visible : isWhitespace c = false) (s : List Char) :
    trimStart (c :: s) = c :: s :=
  List.dropWhile_cons_of_neg (by rw [visible]; exact Bool.false_ne_true)

theorem trimStart_eq_self {s : List Char} (begins : ∀ c ∈ s.head?, isWhitespace c = false) :
    trimStart s = s := by
  cases s with
  | nil => rfl
  | cons c rest => exact trimStart_cons_of_visible (begins c rfl) rest

theorem trim_cons (blank : isWhitespace c = true) (s : List Char) :
    trim (String.ofList (c :: s)) = trim (String.ofList s) := by
  simp only [trim, String.toList_ofList, trimStart_cons blank]

theorem trim_concat (blank : isWhitespace c = true) (s : List Char) :
    trim (String.ofList (s ++ [c])) = trim (String.ofList s) := by
  simp only [trim, String.toList_ofList]
  have dropped : trimStart (s ++ [c]) =
      if (trimStart s).isEmpty then [] else trimStart s ++ [c] := by
    rw [trimStart, List.dropWhile_append, List.dropWhile_cons_of_pos blank, List.dropWhile_nil]
    rfl
  rw [dropped]
  split
  · next empty => rw [List.isEmpty_iff.mp empty]
  · rw [trimEnd_concat blank]

theorem rdropWhile_append_cons {α : Type} {p : α → Bool} {last : α} (stays : p last = false)
    (front rest : List α) :
    (front ++ last :: rest).rdropWhile p = front ++ last :: rest.rdropWhile p := by
  induction rest using List.reverseRecOn with
  | nil =>
      rw [List.rdropWhile_concat_neg _ _ _ (by rw [stays]; exact Bool.false_ne_true)]
      rfl
  | append_singleton rest a ih =>
      rw [← List.cons_append, ← List.append_assoc, List.rdropWhile_concat, List.rdropWhile_concat]
      split
      · exact ih
      · simp

theorem trimEnd_concat_of_visible (visible : isWhitespace c = false) (s : List Char) :
    trimEnd (s ++ [c]) = s ++ [c] :=
  rdropWhile_append_cons visible s []

/-- Behind a row of characters that whitespace neither begins nor ends, only the end of a text is trimmed. -/
theorem trim_append {first last : Char} {inside : List Char} (begins : isWhitespace first = false)
    (ends : isWhitespace last = false) (s : List Char) :
    trim (String.ofList (first :: inside ++ last :: s)) =
      String.ofList (first :: inside ++ last :: trimEnd s) := by
  rw [trim, String.toList_ofList, List.cons_append, trimStart_cons_of_visible begins, ← List.cons_append]
  exact congrArg String.ofList (rdropWhile_append_cons ends (first :: inside) s)

theorem trim_append_of_visible {front : List Char} (nonempty : front ≠ [])
    (visible : ∀ c ∈ front, isWhitespace c = false) (s : List Char) :
    trim (String.ofList (front ++ s)) = String.ofList (front ++ trimEnd s) := by
  have begins : trimStart (front ++ s) = front ++ s := by
    obtain ⟨c, rest, rfl⟩ := List.exists_cons_of_ne_nil nonempty
    exact trimStart_cons_of_visible (visible c List.mem_cons_self) _
  obtain ⟨before, last, rfl⟩ := (List.eq_nil_or_concat front).resolve_left nonempty
  have ends : isWhitespace last = false := visible last (by simp)
  rw [trim, String.toList_ofList, begins, List.concat_eq_append, List.append_assoc, List.append_assoc]
  exact congrArg String.ofList (rdropWhile_append_cons (p := isWhitespace) ends before s)

theorem trim_append_of_blank (blank : ∀ c ∈ blanks, isWhitespace c = true) (s : List Char) :
    trim (String.ofList (blanks ++ s)) = trim (String.ofList s) := by
  induction blanks with
  | nil => rfl
  | cons c rest ih =>
      obtain ⟨here, there⟩ := List.forall_mem_cons.mp blank
      rw [List.cons_append, trim_cons here, ih there]

/-- Of characters with whitespace behind them, the whitespace is dropped from the end. -/
theorem trimEnd_append_of_blank {s : List Char} (visible : ∀ c ∈ s, isWhitespace c = false)
    (blank : ∀ c ∈ blanks, isWhitespace c = true) : trimEnd (s ++ blanks) = s := by
  induction blanks using List.reverseRecOn with
  | nil =>
      have kept : trimStart s.reverse = s.reverse := by
        apply trimStart_eq_self
        intro c first
        exact visible c (List.mem_reverse.mp (List.mem_of_head? first))
      rw [List.append_nil, trimEnd, kept, List.reverse_reverse]
  | append_singleton rest c ih =>
      obtain ⟨there, here⟩ := List.forall_mem_append.mp blank
      rw [← List.append_assoc, trimEnd_concat (here c List.mem_cons_self), ih there]

/-! ## Texts that are trimmed -/

/-- A row of characters that whitespace neither begins nor ends is left as it is. -/
theorem trim_eq_self {s : List Char} (first : ∀ c ∈ s.head?, isWhitespace c = false)
    (last : ∀ c ∈ s.getLast?, isWhitespace c = false) :
    trim (String.ofList s) = String.ofList s := by
  rw [trim, String.toList_ofList, trimStart_eq_self first, trimEnd, trimStart_eq_self, List.reverse_reverse]
  rwa [List.head?_reverse]

theorem length_trim_le (s : List Char) : (trim (String.ofList s)).toList.length ≤ s.length := by
  have dropped (t : List Char) : (trimStart t).length ≤ t.length := (List.dropWhile_suffix _).length_le
  rw [trim, String.toList_ofList, String.toList_ofList, trimEnd, List.length_reverse]
  calc (trimStart (trimStart s).reverse).length
      ≤ (trimStart s).reverse.length := dropped _
    _ = (trimStart s).length := List.length_reverse
    _ ≤ s.length := dropped s

/-- Trimming leaves a row of characters as it is exactly if whitespace neither begins nor ends it. -/
theorem trim_eq_self_iff {s : List Char} :
    trim (String.ofList s) = String.ofList s ↔
      (∀ c ∈ s.head?, isWhitespace c = false) ∧ ∀ c ∈ s.getLast?, isWhitespace c = false := by
  constructor
  · intro same
    constructor
    · intro c first
      obtain ⟨rest, rfl⟩ := List.head?_eq_some_iff.mp first
      rw [← Bool.not_eq_true]
      intro blank
      have shorter := length_trim_le rest
      rw [← trim_cons blank, same, String.toList_ofList, List.length_cons] at shorter
      omega
    · intro c last
      obtain ⟨front, rfl⟩ := List.getLast?_eq_some_iff.mp last
      rw [← Bool.not_eq_true]
      intro blank
      have shorter := length_trim_le front
      rw [← trim_concat blank, same, String.toList_ofList, List.length_append,
        List.length_singleton] at shorter
      omega
  · rintro ⟨first, last⟩
    exact trim_eq_self first last

/-! ## Trimming twice -/

theorem trim_trimStart (s : List Char) : trim (String.ofList (trimStart s)) = trim (String.ofList s) := by
  induction s with
  | nil => rfl
  | cons c rest ih =>
      cases blank : isWhitespace c with
      | true => rw [trimStart_cons blank, ih, trim_cons blank]
      | false => rw [trimStart_cons_of_visible blank]

theorem trim_trimEnd (s : List Char) : trim (String.ofList (trimEnd s)) = trim (String.ofList s) := by
  induction s using List.reverseRecOn with
  | nil => rfl
  | append_singleton front c ih =>
      cases blank : isWhitespace c with
      | true => rw [trimEnd_concat blank, ih, trim_concat blank]
      | false => rw [trimEnd_concat_of_visible blank]

theorem trim_trim (s : String) : trim (trim s) = trim s := by
  calc trim (trim s)
      = trim (String.ofList (trimStart s.toList)) := trim_trimEnd _
    _ = trim (String.ofList s.toList) := trim_trimStart _
    _ = trim s := by rw [String.ofList_toList]

/-! ## What is left of a text -/

structure IsTrimOf (target s : String) : Prop where
  around : ∃ front behind : String, s = front ++ target ++ behind ∧
    (∀ c ∈ front.toList, isWhitespace c = true) ∧ ∀ c ∈ behind.toList, isWhitespace c = true
  begins : ∀ c ∈ target.toList.head?, isWhitespace c = false
  ends : ∀ c ∈ target.toList.getLast?, isWhitespace c = false

theorem isTrimOf_trim (s : String) : IsTrimOf (trim s) s := by
  have kept : trim (String.ofList (trim s).toList) = String.ofList (trim s).toList := by
    rw [String.ofList_toList, trim_trim]
  obtain ⟨begins, ends⟩ := trim_eq_self_iff.mp kept
  refine ⟨?around, begins, ends⟩
  refine ⟨String.ofList (s.toList.takeWhile isWhitespace),
    String.ofList ((trimStart s.toList).rtakeWhile isWhitespace), ?_, ?_, ?_⟩
  · have behind : trimEnd (trimStart s.toList) ++ (trimStart s.toList).rtakeWhile isWhitespace =
        trimStart s.toList := List.rdropWhile_append_rtakeWhile
    have whole : s.toList.takeWhile isWhitespace ++ trimStart s.toList = s.toList :=
      List.takeWhile_append_dropWhile
    rw [trim, ← String.ofList_append, ← String.ofList_append, List.append_assoc, behind, whole,
      String.ofList_toList]
  · intro c member
    rw [String.toList_ofList] at member
    exact List.mem_takeWhile_imp member
  · intro c member
    rw [String.toList_ofList] at member
    exact List.mem_rtakeWhile_imp member

theorem trim_eq_empty_iff (s : String) : trim s = "" ↔ ∀ c ∈ s.toList, isWhitespace c = true := by
  constructor
  · intro nothing
    obtain ⟨front, behind, whole, blankFront, blankBehind⟩ := (isTrimOf_trim s).around
    rw [nothing, String.append_empty] at whole
    rw [whole, String.toList_append]
    exact List.forall_mem_append.mpr ⟨blankFront, blankBehind⟩
  · intro blank
    calc trim s
        = trim (String.ofList (s.toList ++ [])) := by rw [List.append_nil, String.ofList_toList]
      _ = trim (String.ofList []) := trim_append_of_blank blank []
      _ = "" := rfl

theorem trim_ne_empty_iff (s : String) : trim s ≠ "" ↔ ∃ c ∈ s.toList, isWhitespace c = false := by
  rw [ne_eq, trim_eq_empty_iff]
  push Not
  simp only [ne_eq, Bool.not_eq_true]

end LinkGate.Text
