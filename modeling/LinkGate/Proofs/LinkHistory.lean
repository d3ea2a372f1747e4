import LinkGate.LinkSet
import LinkGate.Proofs.ByteOrder
import Mathlib.Algebra.Ring.Nat

/-!
# Link sets and their histories

A link set is made by adding links one after the other. Its addresses are those that were added, each
once and in increasing order, and the origins of an address are those that were added under it, in the
order in which they came.
-/

namespace LinkGate.LinkSet

/-- Every address stands before those behind it, and was written somewhere. -/
structure WellFormed (set : LinkSet) : Prop where
  increasing : set.urls.Pairwise (· < ·)
  inhabited : ∀ entry ∈ set.entries, entry.2 ≠ []

def insertAll (set : LinkSet) (history : List (String × Origin)) : LinkSet :=
  history.foldl (fun set link => (set.insert link.1 link.2).2) set

@[simp] theorem insertAll_nil (set : LinkSet) : set.insertAll [] = set :=
  rfl

@[simp] theorem insertAll_cons (set : LinkSet) (link : String × Origin)
    (history : List (String × Origin)) :
    set.insertAll (link :: history) = (set.insert link.1 link.2).2.insertAll history :=
  rfl

theorem insertAll_append (set : LinkSet) (first second : List (String × Origin)) :
    set.insertAll (first ++ second) = (set.insertAll first).insertAll second :=
  List.foldl_append

/-! ## One entry -/

@[simp] theorem origins_nil (url : String) : origins ⟨[]⟩ url = [] :=
  rfl

@[simp] theorem origins_cons (other : String) (places : List Origin)
    (rest : List (String × List Origin)) (url : String) :
    origins ⟨(other, places) :: rest⟩ url = if other = url then places else origins ⟨rest⟩ url := by
  by_cases same : other = url <;> simp [origins, same]

theorem origins_eq_nil {entries : List (String × List Origin)} {url : String}
    (absent : url ∉ entries.map Prod.fst) : origins ⟨entries⟩ url = [] := by
  induction entries with
  | nil => rfl
  | cons entry rest ih =>
      obtain ⟨other, places⟩ := entry
      simp only [List.map_cons, List.mem_cons, not_or] at absent
      rw [origins_cons, if_neg (fun same => absent.1 same.symm)]
      exact ih absent.2

theorem not_mem_of_forall_lt {url : String} {urls : List String} (before : ∀ other ∈ urls, url < other) :
    url ∉ urls :=
  fun member => lt_irrefl url (before url member)

theorem mem_insertEntry (url : String) (origin : Origin) (entries : List (String × List Origin))
    (other : String) :
    other ∈ (insertEntry url origin entries).map Prod.fst ↔
      other = url ∨ other ∈ entries.map Prod.fst := by
  induction entries with
  | nil => simp [insertEntry]
  | cons entry rest ih =>
      obtain ⟨head, places⟩ := entry
      unfold insertEntry
      split
      · simp only [List.map_cons, List.mem_cons]
      · split
        · next same => simp only [List.map_cons, List.mem_cons, same, or_self_left]
        · simp only [List.map_cons, List.mem_cons, ih]
          tauto

theorem pairwise_insertEntry (url : String) (origin : Origin) {entries : List (String × List Origin)}
    (increasing : (entries.map Prod.fst).Pairwise (· < ·)) :
    ((insertEntry url origin entries).map Prod.fst).Pairwise (· < ·) := by
  induction entries with
  | nil => exact List.pairwise_singleton _ _
  | cons entry rest ih =>
      obtain ⟨head, places⟩ := entry
      obtain ⟨headFirst, restIncreasing⟩ := List.pairwise_cons.mp increasing
      unfold insertEntry
      split
      · next before =>
          refine List.pairwise_cons.mpr ⟨?_, increasing⟩
          intro other member
          rcases List.mem_cons.mp member with rfl | member
          · exact before
          · exact lt_trans before (headFirst other member)
      · next notBefore =>
          split
          · exact increasing
          · next different =>
              refine List.pairwise_cons.mpr ⟨?_, ih restIncreasing⟩
              intro other member
              rcases (mem_insertEntry url origin rest other).mp member with rfl | member
              · exact lt_of_le_of_ne (not_lt.mp notBefore) (Ne.symm different)
              · exact headFirst other member

theorem inhabited_insertEntry (url : String) (origin : Origin) {entries : List (String × List Origin)}
    (inhabited : ∀ entry ∈ entries, entry.2 ≠ []) :
    ∀ entry ∈ insertEntry url origin entries, entry.2 ≠ [] := by
  induction entries with
  | nil =>
      intro entry member
      rw [List.mem_singleton.mp member]
      exact List.cons_ne_nil _ _
  | cons entry rest ih =>
      obtain ⟨head, places⟩ := entry
      unfold insertEntry
      split
      · exact List.forall_mem_cons.mpr ⟨List.cons_ne_nil _ _, inhabited⟩
      · obtain ⟨headInhabited, restInhabited⟩ := List.forall_mem_cons.mp inhabited
        split
        · exact List.forall_mem_cons.mpr
            ⟨fun empty => headInhabited (List.append_eq_nil_iff.mp empty).1, restInhabited⟩
        · exact List.forall_mem_cons.mpr ⟨headInhabited, ih restInhabited⟩

theorem origins_insertEntry_self (url : String) (origin : Origin)
    {entries : List (String × List Origin)} (increasing : (entries.map Prod.fst).Pairwise (· < ·)) :
    origins ⟨insertEntry url origin entries⟩ url = origins ⟨entries⟩ url ++ [origin] := by
  induction entries with
  | nil => simp [insertEntry]
  | cons entry rest ih =>
      obtain ⟨head, places⟩ := entry
      obtain ⟨headFirst, restIncreasing⟩ := List.pairwise_cons.mp increasing
      unfold insertEntry
      split
      · next before =>
          have absent : url ∉ ((head, places) :: rest).map Prod.fst := by
            refine not_mem_of_forall_lt (List.forall_mem_cons.mpr ⟨before, ?_⟩)
            exact fun other member => lt_trans before (headFirst other member)
          rw [origins_cons, if_pos rfl, origins_eq_nil absent, List.nil_append]
      · split
        · next same => rw [origins_cons, if_pos same.symm, origins_cons, if_pos same.symm]
        · next different =>
            rw [origins_cons, if_neg (Ne.symm different), origins_cons, if_neg (Ne.symm different)]
            exact ih restIncreasing

theorem origins_insertEntry_ne {url other : String} (different : other ≠ url) (origin : Origin)
    (entries : List (String × List Origin)) :
    origins ⟨insertEntry url origin entries⟩ other = origins ⟨entries⟩ other := by
  induction entries with
  | nil => simp [insertEntry, Ne.symm different]
  | cons entry rest ih =>
      obtain ⟨head, places⟩ := entry
      unfold insertEntry
      split
      · rw [origins_cons, if_neg (Ne.symm different)]
      · split
        · next same =>
            subst same
            rw [origins_cons, origins_cons, if_neg (Ne.symm different), if_neg (Ne.symm different)]
        · rw [origins_cons, origins_cons, ih]

def places (set : LinkSet) : Nat :=
  (set.entries.map (·.2.length)).sum

/-! ## One link -/

variable {set : LinkSet} {url other : String} {origin : Origin}

theorem mem_urls_insert : other ∈ (set.insert url origin).2.urls ↔ other = url ∨ other ∈ set.urls :=
  mem_insertEntry url origin set.entries other

theorem origins_insert (wellFormed : set.WellFormed) :
    (set.insert url origin).2.origins other =
      set.origins other ++ if url = other then [origin] else [] := by
  by_cases same : url = other
  · subst same
    rw [if_pos rfl]
    exact origins_insertEntry_self url origin wellFormed.increasing
  · rw [if_neg same, List.append_nil]
    exact origins_insertEntry_ne (Ne.symm same) origin set.entries

/-- Every link that is added is one more place, whether its address is new or not. -/
theorem places_insert (set : LinkSet) (url : String) (origin : Origin) :
    (set.insert url origin).2.places = set.places + 1 := by
  obtain ⟨entries⟩ := set
  change ((insertEntry url origin entries).map (·.2.length)).sum = (entries.map (·.2.length)).sum + 1
  induction entries with
  | nil => rfl
  | cons entry rest ih =>
      obtain ⟨other, places⟩ := entry
      unfold insertEntry
      split
      · simp only [List.map_cons, List.sum_cons, List.length_singleton]
        omega
      · split
        · simp only [List.map_cons, List.sum_cons, List.length_append, List.length_singleton]
          omega
        · simp only [List.map_cons, List.sum_cons, ih]
          omega

theorem WellFormed.empty : LinkSet.empty.WellFormed :=
  ⟨List.Pairwise.nil, fun _ member => absurd member List.not_mem_nil⟩

theorem WellFormed.insert (wellFormed : set.WellFormed) (url : String) (origin : Origin) :
    (set.insert url origin).2.WellFormed :=
  ⟨pairwise_insertEntry url origin wellFormed.increasing,
    inhabited_insertEntry url origin wellFormed.inhabited⟩

/-! ## Whole histories -/

variable {history : List (String × Origin)}

theorem WellFormed.insertAll (wellFormed : set.WellFormed) : (set.insertAll history).WellFormed := by
  induction history generalizing set with
  | nil => exact wellFormed
  | cons link history ih => exact ih (wellFormed.insert link.1 link.2)

theorem mem_urls_insertAll :
    url ∈ (set.insertAll history).urls ↔ url ∈ set.urls ∨ ∃ link ∈ history, link.1 = url := by
  induction history generalizing set with
  | nil => simp
  | cons link history ih =>
      simp only [insertAll_cons, ih, mem_urls_insert, List.mem_cons, or_and_right, exists_or,
        exists_eq_left, eq_comm (a := url)]
      tauto

/-- The origins after a history are those before it and those added under the address. -/
theorem origins_insertAll (wellFormed : set.WellFormed) :
    (set.insertAll history).origins url =
      set.origins url ++ (history.filter (·.1 = url)).map Prod.snd := by
  induction history generalizing set with
  | nil => simp
  | cons link history ih =>
      rw [insertAll_cons, ih (wellFormed.insert link.1 link.2), origins_insert wellFormed,
        List.append_assoc]
      by_cases same : link.1 = url <;> simp [same]

theorem places_insertAll (set : LinkSet) (history : List (String × Origin)) :
    (set.insertAll history).places = set.places + history.length := by
  induction history generalizing set with
  | nil => rfl
  | cons link history ih =>
      rw [insertAll_cons, ih, places_insert, List.length_cons]
      omega

end LinkGate.LinkSet
