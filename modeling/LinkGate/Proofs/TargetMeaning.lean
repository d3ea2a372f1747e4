import LinkGate.Proofs.PathComponents
import LinkGate.Target
import LinkGate.Text.Affix
import Mathlib.Data.List.TakeWhile

/-!
# What targets mean

A target that is no full address is cut at its first number sign. Without one it names a file, and with
one a heading; in front of it stands the directory of the document, unless it begins with a slash.
-/

namespace LinkGate

/-! ## Cutting once -/

namespace Text

variable {c : Char} {s before after : List Char}

theorem forall_bne_of_not_mem (absent : c ∉ s) : ∀ x ∈ s, (x != c) = true :=
  fun _ member => bne_iff_ne.mpr fun same => absent (same ▸ member)

theorem takeWhile_append_cons (first : c ∉ before) :
    (before ++ c :: after).takeWhile (· != c) = before := by
  rw [List.takeWhile_append_of_pos (forall_bne_of_not_mem first),
    List.takeWhile_cons_of_neg (by simp), List.append_nil]

theorem dropWhile_append_cons (first : c ∉ before) :
    (before ++ c :: after).dropWhile (· != c) = c :: after := by
  rw [List.dropWhile_append_of_pos (forall_bne_of_not_mem first),
    List.dropWhile_cons_of_neg (by simp)]

theorem splitOnce?_append_cons (first : c ∉ before) :
    splitOnce? c (before ++ c :: after) = some (before, after) := by
  rw [splitOnce?, dropWhile_append_cons first, takeWhile_append_cons first]

theorem splitOnce?_of_not_mem (absent : c ∉ s) : splitOnce? c s = none := by
  have dropped : s.dropWhile (· != c) = [] :=
    List.dropWhile_eq_nil_iff.mpr (forall_bne_of_not_mem absent)
  rw [splitOnce?, dropped]

theorem of_splitOnce?_eq_some (cut : splitOnce? c s = some (before, after)) :
    c ∉ before ∧ s = before ++ c :: after := by
  by_cases member : c ∈ s
  · obtain ⟨left, right, rfl, first⟩ := List.eq_append_cons_of_mem member
    rw [splitOnce?_append_cons first] at cut
    obtain ⟨rfl, rfl⟩ := Prod.mk.inj (Option.some.inj cut)
    exact ⟨first, rfl⟩
  · rw [splitOnce?_of_not_mem member] at cut
    contradiction

/-- A row is cut at a given place exactly if the character is not in front of it. -/
theorem splitOnce?_append_cons_iff :
    splitOnce? c (before ++ c :: after) = some (before, after) ↔ c ∉ before :=
  ⟨fun cut => (of_splitOnce?_eq_some cut).1, splitOnce?_append_cons⟩

end Text

namespace Target

variable {target : String} {document path : Path} {allowLocal : Bool}

/-! ## Behind a directory -/

theorem ofRootPath_eq (directory named : List Char) :
    ofRootPath directory named =
      match Text.splitOnce? '#' named with
      | none => .localFile ⟨String.ofList (directory ++ named)⟩
      | some (before, fragment) =>
        .anchor (String.ofList (directory ++ before)) (String.ofList fragment) := by
  unfold ofRootPath Text.splitOnce?
  cases named.dropWhile (· != '#') <;> rfl

theorem of_ofRootPath_eq_localFile {directory named : List Char}
    (isFile : ofRootPath directory named = .localFile path) :
    '#' ∉ named ∧ path.text.toList = directory ++ named := by
  by_cases member : '#' ∈ named
  · obtain ⟨before, after, rfl, first⟩ := List.eq_append_cons_of_mem member
    rw [ofRootPath_eq, Text.splitOnce?_append_cons first] at isFile
    contradiction
  · rw [ofRootPath_eq, Text.splitOnce?_of_not_mem member, localFile.injEq] at isFile
    rw [← isFile, String.toList_ofList]
    exact ⟨member, rfl⟩

theorem of_ofRootPath_eq_anchor {directory named : List Char} {heading fragment : String}
    (isAnchor : ofRootPath directory named = .anchor heading fragment) :
    ∃ before, '#' ∉ before ∧ named = before ++ '#' :: fragment.toList ∧
      heading.toList = directory ++ before := by
  by_cases member : '#' ∈ named
  · obtain ⟨before, after, rfl, first⟩ := List.eq_append_cons_of_mem member
    rw [ofRootPath_eq, Text.splitOnce?_append_cons first] at isAnchor
    obtain ⟨rfl, rfl⟩ := anchor.inj isAnchor
    exact ⟨before, first, by rw [String.toList_ofList], String.toList_ofList⟩
  · rw [ofRootPath_eq, Text.splitOnce?_of_not_mem member] at isAnchor
    contradiction

/-! ## In a document -/

/-- What a target is put behind, and the target as it stands there. -/
def placed (document : Path) (named : List Char) : List Char × List Char :=
  if named.head? = some '/' then ([], named.dropWhile (· == '/'))
  else (document.directory.toList, named)

theorem relative_eq (document : Path) (named : List Char) :
    relative document named = ofRootPath (placed document named).1 (placed document named).2 := by
  unfold relative placed
  split <;> rfl

/-- What a target is put behind, with the file name of the document in front of a fragment alone. -/
theorem placed_withFileName (document : Path) (target : List Char) :
    placed document (withFileName document target) =
      if target.head? = some '/' then ([], target.dropWhile (· == '/'))
      else if target.head? = some '#' then
        (document.directory.toList, (document.fileName?.getD "").toList ++ target)
      else (document.directory.toList, target) := by
  unfold withFileName placed
  by_cases fragment : target.head? = some '#'
  · have noSlash : ((document.fileName?.getD "").toList ++ target).head? ≠ some '/' := by
      intro slash
      cases found : document.fileName? with
      | none =>
          rw [found, Option.getD_none, String.toList_empty, List.nil_append, fragment] at slash
          contradiction
      | some name =>
          have isName := Path.isName_of_fileName? found
          rw [found, Option.getD_some, List.head?_append_of_ne_nil _ isName.ne_nil] at slash
          exact isName.noSlash (List.mem_of_mem_head? slash)
    rw [if_pos fragment, if_neg noSlash, if_neg (by rw [fragment]; decide), if_pos fragment]
  · rw [if_neg fragment, if_neg fragment]

/-- What a target is put behind neither brings a number sign into it nor takes one away. -/
theorem sign_mem_placed (document : Path) {target : List Char} :
    '#' ∈ (placed document (withFileName document target)).2 ↔ '#' ∈ target := by
  rw [placed_withFileName]
  split
  · have slashes : '#' ∉ target.takeWhile (· == '/') :=
      fun member => absurd (List.mem_takeWhile_imp member) (by decide)
    conv_rhs => rw [← List.takeWhile_append_dropWhile (p := (· == '/')) (l := target)]
    rw [List.mem_append, or_iff_right slashes]
  · split
    · next fragment =>
        have member := List.mem_of_mem_head? fragment
        exact iff_of_true (List.mem_append_right _ member) member
    · exact Iff.rfl

/-- A target that is no full address is relative, and is allowed to be. -/
theorem classify_relative {meaning : Target}
    (classified : classify target document allowLocal = .ok meaning)
    (notRemote : ∀ url, meaning ≠ .remote url) :
    allowLocal = true ∧ meaning = relative document (withFileName document target.toList) := by
  unfold classify at classified
  split at classified
  · next allowed =>
      dsimp only at classified
      split at classified
      · exact absurd (Except.ok.inj classified).symm (notRemote _)
      · exact ⟨allowed, (Except.ok.inj classified).symm⟩
  · split at classified
    · exact absurd (Except.ok.inj classified).symm (notRemote _)
    · contradiction

/-- A target that names a file is written behind the directory of the document, or, without the
slashes in front, alone. -/
theorem text_of_classify_localFile
    (classified : classify target document allowLocal = .ok (.localFile path)) :
    path.text.toList =
      if target.toList.head? = some '/' then target.toList.dropWhile (· == '/')
      else document.directory.toList ++ target.toList := by
  obtain ⟨-, isFile⟩ := classify_relative classified (by simp)
  rw [relative_eq] at isFile
  obtain ⟨noSign, written⟩ := of_ofRootPath_eq_localFile isFile.symm
  have noFragment : target.toList.head? ≠ some '#' :=
    fun fragment => noSign ((sign_mem_placed document).mpr (List.mem_of_mem_head? fragment))
  rw [written, placed_withFileName, if_neg noFragment]
  split <;> rfl

end Target

end LinkGate
