import LinkGate.Git.Program
import LinkGate.Proofs.Trimming

/-!
# Trimmed lines

Whitespace at the ends of a text makes no difference to its trimmed lines, since a line end is whitespace
itself. The trimmed lines of a text are those in front of a line end and those behind it.
-/

namespace LinkGate

namespace Git

open Text

variable {c : Char}

/-! ## Lines -/

@[simp] theorem trimmedLines_empty : trimmedLines "" = [] := by
  decide

theorem trimmedLines_of_not_mem {line : List Char} (single : '\n' ∉ line) :
    trimmedLines (String.ofList line) = [trim (String.ofList line)].filter (· ≠ "") := by
  rw [trimmedLines, String.toList_ofList, List.splitOn_eq_singleton single, List.map_singleton]

theorem trimmedLines_append (before after : List Char) :
    trimmedLines (String.ofList (before ++ '\n' :: after)) =
      trimmedLines (String.ofList before) ++ trimmedLines (String.ofList after) := by
  simp only [trimmedLines, String.toList_ofList, List.splitOn_append_cons_self, List.map_append,
    List.filter_append]

theorem trimmedLines_cons (blank : isWhitespace c = true) (s : List Char) :
    trimmedLines (String.ofList (c :: s)) = trimmedLines (String.ofList s) := by
  by_cases lineEnd : c = '\n'
  · subst lineEnd
    have divided := trimmedLines_append [] s
    rwa [String.ofList_nil, trimmedLines_empty, List.nil_append, List.nil_append] at divided
  · obtain ⟨first, others, lines⟩ := List.exists_cons_of_ne_nil (List.splitOn_ne_nil '\n' s)
    have longer : (c :: s).splitOn '\n' = (c :: first) :: others := by
      rw [List.splitOn_cons_eq_if_modifyHead, if_neg (by simpa using lineEnd), lines]
      rfl
    simp only [trimmedLines, String.toList_ofList, longer, lines, List.map_cons, trim_cons blank]

theorem trimmedLines_concat (blank : isWhitespace c = true) (s : List Char) :
    trimmedLines (String.ofList (s ++ [c])) = trimmedLines (String.ofList s) := by
  by_cases lineEnd : c = '\n'
  · subst lineEnd
    rw [trimmedLines_append, String.ofList_nil, trimmedLines_empty, List.append_nil]
  · -- Only the last line holds the whitespace.
    have single {line : List Char} (noEnd : '\n' ∉ line) :
        trimmedLines (String.ofList (line ++ [c])) = trimmedLines (String.ofList line) := by
      have noEnd' : '\n' ∉ line ++ [c] := by
        rw [List.mem_append, List.mem_singleton, not_or]
        exact ⟨noEnd, fun same => lineEnd same.symm⟩
      rw [trimmedLines_of_not_mem noEnd', trimmedLines_of_not_mem noEnd, trim_concat blank]
    by_cases divided : '\n' ∈ s
    · obtain ⟨last, front, reversed, noEnd⟩ :=
        List.eq_append_cons_of_mem (List.mem_reverse.mpr divided)
      have written : s = front.reverse ++ '\n' :: last.reverse := by
        rw [← List.reverse_reverse s, reversed]
        simp
      rw [written, List.append_assoc, List.cons_append, trimmedLines_append, trimmedLines_append,
        single (by rwa [List.mem_reverse])]
    · exact single divided

theorem trimmedLines_trimStart (s : List Char) :
    trimmedLines (String.ofList (trimStart s)) = trimmedLines (String.ofList s) := by
  induction s with
  | nil => rfl
  | cons c rest ih =>
      cases blank : isWhitespace c with
      | true => rw [trimStart_cons blank, ih, trimmedLines_cons blank]
      | false => rw [trimStart_cons_of_visible blank]

theorem trimmedLines_trimEnd (s : List Char) :
    trimmedLines (String.ofList (trimEnd s)) = trimmedLines (String.ofList s) := by
  induction s using List.reverseRecOn with
  | nil => rfl
  | append_singleton front c ih =>
      cases blank : isWhitespace c with
      | true => rw [trimEnd_concat blank, ih, trimmedLines_concat blank]
      | false => rw [trimEnd_concat_of_visible blank]

theorem trimmedLines_trim (text : String) : trimmedLines (trim text) = trimmedLines text := by
  rw [trim, trimmedLines_trimEnd, trimmedLines_trimStart, String.ofList_toList]

/-- The trimmed lines of a text that is put together of lines. -/
theorem trimmedLines_of_lines {lines : List (List Char)} (single : ∀ line ∈ lines, '\n' ∉ line) :
    trimmedLines (String.ofList (lines.flatMap (· ++ ['\n']))) =
      (lines.map fun line => trim (String.ofList line)).filter (· ≠ "") := by
  induction lines with
  | nil => exact trimmedLines_empty
  | cons line rest ih =>
      obtain ⟨here, there⟩ := List.forall_mem_cons.mp single
      rw [List.flatMap_cons, List.append_assoc, List.singleton_append, trimmedLines_append, ih there,
        trimmedLines_of_not_mem here, List.map_cons, ← List.filter_append, List.singleton_append]

end Git

end LinkGate
