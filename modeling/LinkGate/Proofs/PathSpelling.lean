import LinkGate.Proofs.PathComponents

/-!
# Spellings of paths

A path may be spelt in many ways: dots, repeated slashes and a slash at the end make no difference to what
it names. Two paths have the same identity exactly if both or neither begin with a slash and the same steps
are left when all this is dropped.
-/

namespace LinkGate.Path

/-- What stands between the slashes of a path. Nothing, as it stands between repeated slashes and behind one
at the end, and dots are dropped. -/
def steps (p : Path) : List (List Char) :=
  (p.text.toList.splitOn '/').filter fun part => part ≠ [] ∧ part ≠ ['.']

/-- Whether two paths are spellings of one: they begin at the same place and take the same steps. -/
def SpeltAlike (p q : Path) : Prop :=
  p.isAbsolute = q.isAbsolute ∧ p.steps = q.steps

instance (p q : Path) : Decidable (p.SpeltAlike q) :=
  inferInstanceAs (Decidable (_ ∧ _))

def Component.ofStep (step : List Char) : Component :=
  if step = ['.', '.'] then .parent else .normal (String.ofList step)

theorem Component.ofStep_injective : Function.Injective Component.ofStep := by
  intro first second same
  unfold Component.ofStep at same
  split at same
  · next up =>
      split at same
      · next alsoUp => rw [up, alsoUp]
      · contradiction
  · split at same
    · contradiction
    · exact String.ofList_injective (Component.normal.inj same)

theorem ofPart?_eq_ofStep {part : List Char} (step : part ≠ [] ∧ part ≠ ['.']) :
    Component.ofPart? part = some (Component.ofStep part) := by
  unfold Component.ofPart?
  split
  · exact absurd rfl step.1
  · exact absurd rfl step.2
  · rfl
  · next notUp => rw [Component.ofStep, if_neg notUp]

theorem followingComponents_eq_map (parts : List (List Char)) :
    followingComponents parts =
      (parts.filter fun part => part ≠ [] ∧ part ≠ ['.']).map Component.ofStep := by
  induction parts with
  | nil => rfl
  | cons part rest ih =>
      rw [followingComponents_cons, ih]
      by_cases step : part ≠ [] ∧ part ≠ ['.']
      · have notDot : Component.ofStep part ≠ .current := by
          unfold Component.ofStep
          split <;> simp
        rw [List.filter_cons_of_pos (by simpa using step), ofPart?_eq_ofStep step, List.map_cons,
          Option.toList_some, List.filter_cons_of_pos (by simpa using notDot), List.filter_nil,
          List.singleton_append]
      · rw [List.filter_cons_of_neg (by simpa using step)]
        rcases Decidable.not_and_iff_not_or_not.mp step with empty | dot
        · rw [Decidable.not_not.mp empty]
          rfl
        · rw [Decidable.not_not.mp dot]
          rfl

/-- The identity of a path is the slash at its beginning and its steps. -/
theorem identity_eq (p : Path) :
    p.identity = (if p.isAbsolute then [.root] else []) ++ p.steps.map Component.ofStep := by
  rw [identity, components, filter_componentsOf, followingComponents_eq_map, steps]
  simp only [isAbsolute, beq_iff_eq]

theorem root_not_mem_map_ofStep (steps : List (List Char)) :
    .root ∉ steps.map Component.ofStep := by
  intro member
  obtain ⟨step, -, same⟩ := List.mem_map.mp member
  unfold Component.ofStep at same
  split at same <;> contradiction

/-- Two paths have the same identity exactly if they are spellings of one. -/
theorem identity_eq_iff {p q : Path} : p.identity = q.identity ↔ p.SpeltAlike q := by
  rw [identity_eq, identity_eq, SpeltAlike]
  have sameSteps : p.steps.map Component.ofStep = q.steps.map Component.ofStep ↔ p.steps = q.steps :=
    (List.map_injective_iff.mpr Component.ofStep_injective).eq_iff
  have noRoot := root_not_mem_map_ofStep
  cases p.isAbsolute <;> cases q.isAbsolute <;>
    simp only [Bool.false_eq_true, if_false, if_true, List.nil_append, List.singleton_append,
      List.cons.injEq, reduceCtorEq, true_and, false_and, iff_false]
  · exact sameSteps
  · exact fun same => noRoot p.steps (same ▸ List.mem_cons_self)
  · exact fun same => noRoot q.steps (same ▸ List.mem_cons_self)
  · exact sameSteps

example : Path.SpeltAlike ⟨"./docs//guide.md/"⟩ ⟨"docs/./guide.md"⟩ := by decide

end LinkGate.Path
