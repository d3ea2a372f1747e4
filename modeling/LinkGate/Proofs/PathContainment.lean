import LinkGate.Proofs.TargetMeaning
import LinkGate.Report.Verdicts

/-!
# Where the names of files lead

A path that is looked up in a repository stays inside of it as long as no beginning of it has more steps
up than names. The names of the directory of a document count for a target that is put behind them, and
nothing else holds a target back: whether one leaves the repository can be read off the target and the
depth of its document, and one that does is looked up like any other.
-/

namespace LinkGate

namespace Path

/-! ## Heights -/

def Component.isNormal : Component → Bool
  | normal _ => true
  | _ => false

/-- Steps from some height above a place never lead below it: no beginning of them has more steps up to
the parent than the height and the names in it allow. -/
def StaysWithin (height : Nat) (steps : List Component) : Prop :=
  ∀ first, first <+: steps → first.count .parent ≤ height + first.countP Component.isNormal

instance (height : Nat) (steps : List Component) : Decidable (StaysWithin height steps) :=
  decidable_of_iff
    (∀ first ∈ steps.inits, first.count .parent ≤ height + first.countP Component.isNormal)
    (by simp only [List.mem_inits, StaysWithin])

/-- A path never leads out of the place at which it begins. -/
def StaysInside (p : Path) : Prop :=
  StaysWithin 0 p.components

instance (p : Path) : Decidable p.StaysInside :=
  inferInstanceAs (Decidable (StaysWithin 0 p.components))

/-- The height behind a step, if the step does not lead below the place. -/
def heightAfter? (height : Nat) : Component → Option Nat
  | .normal _ => some (height + 1)
  | .parent => if height = 0 then none else some (height - 1)
  | .root => some height
  | .current => some height

theorem staysWithin_cons {height : Nat} {step : Component} {rest : List Component} :
    StaysWithin height (step :: rest) ↔
      ∃ next, heightAfter? height step = some next ∧ StaysWithin next rest := by
  -- The empty beginning asks for nothing, and any other one begins with the step.
  have behind : StaysWithin height (step :: rest) ↔ ∀ first, first <+: rest →
      (step :: first).count .parent ≤ height + (step :: first).countP Component.isNormal := by
    constructor
    · exact fun stays first begins => stays _ (List.cons_prefix_cons.mpr ⟨rfl, begins⟩)
    · intro stays first begins
      rcases List.prefix_cons_iff.mp begins with rfl | ⟨others, rfl, others_begin⟩
      · exact Nat.zero_le _
      · exact stays others others_begin
  rw [behind]
  cases step with
  | normal name =>
      simp [heightAfter?, StaysWithin, Component.isNormal, List.countP_cons, Nat.add_assoc,
        Nat.add_comm 1]
  | root => simp [heightAfter?, StaysWithin, Component.isNormal]
  | current => simp [heightAfter?, StaysWithin, Component.isNormal]
  | parent =>
      cases height with
      | zero =>
          simp only [heightAfter?, if_true, reduceCtorEq, false_and, exists_false, iff_false]
          exact fun stays => absurd (stays [] List.nil_prefix) (by decide)
      | succ height =>
          simp [heightAfter?, StaysWithin, Component.isNormal, Nat.add_right_comm]

@[simp] theorem staysWithin_normal_cons {height : Nat} {name : String} {rest : List Component} :
    StaysWithin height (.normal name :: rest) ↔ StaysWithin (height + 1) rest := by
  simp [staysWithin_cons, heightAfter?]

theorem staysWithin_names_append {height : Nat} (names : List String) (rest : List Component) :
    StaysWithin height (names.map .normal ++ rest) ↔ StaysWithin (height + names.length) rest := by
  induction names generalizing height with
  | nil => rfl
  | cons name names ih =>
      rw [List.map_cons, List.cons_append, staysWithin_normal_cons, ih, List.length_cons]
      simp only [Nat.add_assoc, Nat.add_comm 1]

theorem staysWithin_filter {height : Nat} (steps : List Component) :
    StaysWithin height (steps.filter (· ≠ .current)) ↔ StaysWithin height steps := by
  induction steps generalizing height with
  | nil => rfl
  | cons step rest ih =>
      by_cases dot : step = .current
      · rw [List.filter_cons_of_neg (by simpa using dot), ih, dot]
        simp [staysWithin_cons, heightAfter?]
      · rw [List.filter_cons_of_pos (by simpa using dot), staysWithin_cons, staysWithin_cons]
        simp only [ih]

/-- For a path without a slash at its beginning, the steps may be read off its parts. -/
theorem staysWithin_componentsOf {height : Nat} {s : List Char} (relative : s.head? ≠ some '/') :
    StaysWithin height (componentsOf s) ↔
      StaysWithin height (followingComponents (s.splitOn '/')) := by
  rw [← staysWithin_filter, filter_componentsOf, if_neg relative, List.nil_append]

theorem head?_dropWhile_slash (s : List Char) : (s.dropWhile (· == '/')).head? ≠ some '/' := by
  intro slash
  have stopped := List.head?_dropWhile_not (· == '/') s
  rw [slash] at stopped
  contradiction

/-- If all components of a path are names, all but the last one lead to its directory. -/
theorem length_directoryNames {p : Path} (normal : ∀ c ∈ p.components, c.isNormal = true) :
    p.directoryNames.length = p.components.length - 1 := by
  have named : ∀ c ∈ p.components.dropLast, (Component.name? c).isSome = true := by
    intro c member
    have isNormal := normal c (List.mem_of_mem_dropLast member)
    cases c <;> simp_all [Component.isNormal, Component.name?]
  rw [directoryNames, List.length_filterMap_eq_countP, List.countP_eq_length.mpr named,
    List.length_dropLast]

end Path

namespace Target

open LinkGate.Path

/-- The height above the root at which the steps of a target begin: that of the directory of the
document, or none if the target begins with a slash. -/
def height (document : Path) (target : String) : Nat :=
  if target.toList.head? = some '/' then 0 else document.components.length - 1

/-- The steps of a target, without slashes in front. -/
def steps (target : String) : List Component :=
  componentsOf (target.toList.dropWhile (· == '/'))

/-- The path of a file that a target names does not begin with a slash. -/
theorem head?_of_classify_localFile {document path : Path} {target : String} {allowLocal : Bool}
    (classified : classify target document allowLocal = .ok (.localFile path)) :
    path.text.toList.head? ≠ some '/' := by
  rw [text_of_classify_localFile classified]
  split
  · exact head?_dropWhile_slash _
  · next noSlash => exact head?_directory_append document noSlash

/-- A file that a target names is looked up wherever its path leads. -/
theorem localExists_of_classify_localFile {document path : Path} {target : String}
    {allowLocal : Bool} (classified : classify target document allowLocal = .ok (.localFile path))
    (files : Files) (root : Path) :
    Verdicts.localExists files root path = files.has (root.join path) := by
  have relative : path.isAbsolute = false :=
    beq_eq_false_iff_ne.mpr (head?_of_classify_localFile classified)
  rw [Verdicts.localExists, relative, Bool.not_false, Bool.true_and]

/-- The path of a file that a target names stays in the repository exactly if the steps of the target
stay within the height of the document. One that leaves the repository is looked up like any other. -/
theorem localFile_staysInside_iff {document path : Path} {target : String}
    (normal : ∀ c ∈ document.components, c.isNormal = true)
    (classified : classify target document true = .ok (.localFile path)) :
    (path.StaysInside ↔ StaysWithin (height document target) (steps target)) ∧
      ∀ (files : Files) (root : Path),
        Verdicts.localExists files root path = files.has (root.join path) := by
  refine ⟨?_, localExists_of_classify_localFile classified⟩
  have written := text_of_classify_localFile classified
  rw [StaysInside, components, height, steps]
  by_cases slash : target.toList.head? = some '/'
  · rw [if_pos slash] at written ⊢
    rw [written]
  · have noneDropped : target.toList.dropWhile (· == '/') = target.toList := by
      cases characters : target.toList with
      | nil => rfl
      | cons c rest =>
          rw [characters, List.head?_cons, Option.some.injEq] at slash
          exact List.dropWhile_cons_of_neg (by simpa using slash)
    rw [if_neg slash] at written ⊢
    rw [noneDropped, staysWithin_componentsOf (head?_of_classify_localFile classified), written,
      followingComponents_directory_append, staysWithin_names_append, length_directoryNames normal,
      Nat.zero_add, staysWithin_componentsOf slash]

/-- One step up from the directory of a document stays in the repository. -/
theorem localFile_staysInside_of_one_step_up :
    (∀ c ∈ Path.components ⟨"docs/guide.md"⟩, c.isNormal = true) ∧
      classify "../notes.md" ⟨"docs/guide.md"⟩ true = .ok (.localFile ⟨"docs/../notes.md"⟩) ∧
      Path.StaysInside ⟨"docs/../notes.md"⟩ := by
  have normal : ∀ c ∈ Path.components ⟨"docs/guide.md"⟩, c.isNormal = true := by decide +kernel
  have classified : classify "../notes.md" ⟨"docs/guide.md"⟩ true =
      .ok (.localFile ⟨"docs/../notes.md"⟩) := by
    decide +kernel
  exact ⟨normal, classified, (localFile_staysInside_iff normal classified).1.mpr (by decide +kernel)⟩

/-- From a document at the root, one step up leads out of the repository, and what is there is found. -/
theorem localFile_found_outside :
    let files : Files :=
      { read := fun _ => .error .notFound
        has := fun path => path.text == "./../secret.md" }
    (∀ c ∈ Path.components ⟨"README.md"⟩, c.isNormal = true) ∧
      classify "../secret.md" ⟨"README.md"⟩ true = .ok (.localFile ⟨"../secret.md"⟩) ∧
      ¬ Path.StaysInside ⟨"../secret.md"⟩ ∧
      Verdicts.localExists files ⟨"."⟩ ⟨"../secret.md"⟩ = true := by
  decide +kernel

end Target

end LinkGate
