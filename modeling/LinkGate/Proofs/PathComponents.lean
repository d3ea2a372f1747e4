import LinkGate.Path
import Mathlib.Data.List.Infix

/-!
# Components of paths

No name in a path is empty or holds a slash, and none is a dot or two dots. A path that is put behind a
directory keeps its components, dots left out, behind the names of the directory.
-/

namespace LinkGate.Path

/-! ## Parts and names -/

theorem not_mem_of_mem_splitOn {separator : Char} {s part : List Char}
    (member : part ∈ s.splitOn separator) : separator ∉ part := by
  induction s generalizing part with
  | nil =>
      rw [List.splitOn_nil, List.mem_singleton] at member
      rw [member]
      exact List.not_mem_nil
  | cons c rest ih =>
      rw [List.splitOn_cons_eq_if_modifyHead] at member
      split at member
      · rcases List.mem_cons.mp member with rfl | member
        · exact List.not_mem_nil
        · exact ih member
      · next different =>
          cases parts : rest.splitOn separator with
          | nil => exact absurd parts (List.splitOn_ne_nil _ _)
          | cons first others =>
              rw [parts] at member ih
              rcases List.mem_cons.mp member with rfl | member
              · rw [List.mem_cons, not_or]
                exact ⟨fun same => different (beq_iff_eq.mpr same.symm), ih List.mem_cons_self⟩
              · exact ih (List.mem_cons_of_mem _ member)

/-- A row of characters that is read as a name, and holds no slash. -/
structure IsName (name : String) : Prop where
  part : Component.ofPart? name.toList = some (.normal name)
  noSlash : '/' ∉ name.toList

theorem IsName.ne_nil {name : String} (isName : IsName name) : name.toList ≠ [] := by
  intro empty
  have part := isName.part
  rw [empty] at part
  exact absurd part (by simp [Component.ofPart?])

theorem ofPart?_eq_normal {part : List Char} {name : String}
    (read : Component.ofPart? part = some (.normal name)) : name.toList = part := by
  unfold Component.ofPart? at read
  split at read
  · contradiction
  · simp at read
  · simp at read
  · simp only [Option.some.injEq, Component.normal.injEq] at read
    rw [← read, String.toList_ofList]

theorem exists_part_of_mem_componentsOf {s : List Char} {name : String}
    (member : .normal name ∈ componentsOf s) :
    ∃ part ∈ s.splitOn '/', Component.ofPart? part = some (.normal name) := by
  have following {parts : List (List Char)} (member : .normal name ∈ followingComponents parts) :
      ∃ part ∈ parts, Component.ofPart? part = some (.normal name) :=
    List.mem_filterMap.mp (List.mem_filter.mp member).1
  unfold componentsOf at member
  split at member
  · contradiction
  · contradiction
  · next rest _ parts =>
      rw [parts]
      rcases List.mem_cons.mp member with impossible | member
      · contradiction
      · obtain ⟨part, inRest, read⟩ := following member
        exact ⟨part, List.mem_cons_of_mem _ inRest, read⟩
  · next first rest _ _ parts =>
      rw [parts]
      rcases List.mem_append.mp member with member | member
      · exact ⟨first, List.mem_cons_self, Option.mem_toList.mp member⟩
      · obtain ⟨part, inRest, read⟩ := following member
        exact ⟨part, List.mem_cons_of_mem _ inRest, read⟩

theorem isName_of_mem_components {p : Path} {name : String}
    (member : .normal name ∈ p.components) : IsName name := by
  obtain ⟨part, inParts, read⟩ := exists_part_of_mem_componentsOf member
  have same := ofPart?_eq_normal read
  refine ⟨by rw [same, read], ?_⟩
  rw [same]
  exact not_mem_of_mem_splitOn inParts

theorem isName_of_fileName? {p : Path} {name : String} (found : p.fileName? = some name) :
    IsName name := by
  obtain ⟨component, last, named⟩ := Option.bind_eq_some_iff.mp found
  cases component with
  | normal other =>
      obtain rfl := Option.some.inj named
      exact isName_of_mem_components (List.mem_of_getLast? last)
  | root | current | parent => contradiction

/-! ## Dots left out -/

theorem followingComponents_cons (part : List Char) (rest : List (List Char)) :
    followingComponents (part :: rest) =
      (Component.ofPart? part).toList.filter (· ≠ .current) ++ followingComponents rest := by
  cases read : Component.ofPart? part with
  | none => simp [followingComponents, read]
  | some component =>
      simp only [followingComponents, List.filterMap_cons, read, Option.toList_some, List.filter_cons]
      split <;> rfl

theorem followingComponents_name_cons {name : String} (isName : IsName name)
    (rest : List (List Char)) :
    followingComponents (name.toList :: rest) = .normal name :: followingComponents rest := by
  rw [followingComponents_cons, isName.part]
  rfl

/-- Without dots, the components are the slash at the beginning and what the parts mean. -/
theorem filter_componentsOf (s : List Char) :
    (componentsOf s).filter (· ≠ .current) =
      (if s.head? = some '/' then [.root] else []) ++ followingComponents (s.splitOn '/') := by
  have filtered (parts : List (List Char)) :
      (followingComponents parts).filter (· ≠ .current) = followingComponents parts := by
    simp only [followingComponents, List.filter_filter, Bool.and_self]
  cases s with
  | nil => rfl
  | cons c rest =>
      obtain ⟨first, others, parts⟩ := List.exists_cons_of_ne_nil (List.splitOn_ne_nil '/' rest)
      by_cases slash : c = '/'
      · have split : (c :: rest).splitOn '/' = [] :: first :: others := by
          rw [List.splitOn_cons_eq_if_modifyHead, if_pos (by simpa using slash), parts]
        have begins : (c :: rest).head? = some '/' := congrArg some slash
        rw [if_pos begins, componentsOf, split, followingComponents_cons]
        simp only [List.filter_cons_of_pos, ne_eq, reduceCtorEq, not_false_eq_true, decide_true, filtered]
        rfl
      · have split : (c :: rest).splitOn '/' = (c :: first) :: others := by
          rw [List.splitOn_cons_eq_if_modifyHead, if_neg (by simpa using slash), parts]
          rfl
        simp only [componentsOf, split, List.filter_append, filtered, List.head?_cons,
          Option.some.injEq, slash, if_false, List.nil_append]
        rw [followingComponents_cons]

/-! ## Directories -/

def directoryNames (p : Path) : List String :=
  p.components.dropLast.filterMap Component.name?

theorem isName_of_mem_directoryNames {p : Path} {name : String}
    (member : name ∈ p.directoryNames) : IsName name := by
  obtain ⟨component, inPath, named⟩ := List.mem_filterMap.mp member
  cases component with
  | normal other =>
      obtain rfl := Option.some.inj named
      exact isName_of_mem_components (List.mem_of_mem_dropLast inPath)
  | root | current | parent => contradiction

theorem toList_directory (p : Path) :
    p.directory.toList = p.directoryNames.flatMap (·.toList ++ ['/']) := by
  rw [directory, String.toList_join, List.flatMap_map, directoryNames]
  simp only [String.toList_append]
  rfl

/-- Behind a directory, a path keeps its components. -/
theorem followingComponents_directory_append (p : Path) (s : List Char) :
    followingComponents ((p.directory.toList ++ s).splitOn '/') =
      p.directoryNames.map .normal ++ followingComponents (s.splitOn '/') := by
  rw [toList_directory]
  have names : ∀ name ∈ p.directoryNames, IsName name := fun _ => isName_of_mem_directoryNames
  generalize p.directoryNames = directory at names
  induction directory with
  | nil => rfl
  | cons name rest ih =>
      have isName := names name List.mem_cons_self
      rw [List.flatMap_cons, List.append_assoc, List.append_assoc, List.singleton_append,
        List.splitOn_append_cons_self_of_not_mem isName.noSlash, followingComponents_name_cons isName,
        ih fun other member => names other (List.mem_cons_of_mem _ member)]
      rfl

/-- Behind a directory, a path does not begin with a slash unless it does alone. -/
theorem head?_directory_append (p : Path) {s : List Char} (relative : s.head? ≠ some '/') :
    (p.directory.toList ++ s).head? ≠ some '/' := by
  rw [toList_directory]
  have names : ∀ name ∈ p.directoryNames, IsName name := fun _ => isName_of_mem_directoryNames
  cases found : p.directoryNames with
  | nil => exact relative
  | cons name rest =>
      have isName := names name (found ▸ List.mem_cons_self)
      rw [List.flatMap_cons, List.append_assoc, List.append_assoc,
        List.head?_append_of_ne_nil _ isName.ne_nil]
      exact fun slash => isName.noSlash (List.mem_of_mem_head? slash)

end LinkGate.Path
