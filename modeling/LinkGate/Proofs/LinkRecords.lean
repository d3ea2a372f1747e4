import LinkGate.Proofs.LinkHistory
import Mathlib.Data.List.Sort

/-!
# What a link set records

A link set is nothing but its addresses in increasing order, each with its origins, so two sets with the
same origins under every address are the same set. From this follows all that can be read off a set after
a history, and that the order of two links matters only if they have the same address.
-/

namespace LinkGate.LinkSet

variable {set other : LinkSet} {url : String} {origin : Origin}

/-! ## A set and its entries -/

theorem origins_of_mem {entries : List (String × List Origin)} {entry : String × List Origin}
    (increasing : (entries.map Prod.fst).Pairwise (· < ·)) (member : entry ∈ entries) :
    origins ⟨entries⟩ entry.1 = entry.2 := by
  induction entries with
  | nil => exact absurd member List.not_mem_nil
  | cons head rest ih =>
      obtain ⟨headFirst, restIncreasing⟩ := List.pairwise_cons.mp increasing
      rcases List.mem_cons.mp member with rfl | member
      · rw [origins_cons, if_pos rfl]
      · have different : head.1 ≠ entry.1 := (headFirst entry.1 (List.mem_map_of_mem member)).ne
        rw [origins_cons, if_neg different]
        exact ih restIncreasing member

namespace WellFormed

/-- The entries of a set are its addresses with their origins. -/
theorem entries_eq (wellFormed : set.WellFormed) :
    set.entries = set.urls.map fun url => (url, set.origins url) := by
  rw [urls, List.map_map]
  refine (List.map_congr_left ?_).trans (List.map_id _) |>.symm
  intro entry member
  exact Prod.ext rfl (origins_of_mem wellFormed.increasing member)

/-- The addresses of a set are those with an origin. -/
theorem mem_urls_iff (wellFormed : set.WellFormed) : url ∈ set.urls ↔ set.origins url ≠ [] := by
  constructor
  · intro member
    obtain ⟨entry, isEntry, rfl⟩ := List.mem_map.mp member
    rw [origins_of_mem wellFormed.increasing isEntry]
    exact wellFormed.inhabited entry isEntry
  · intro found
    by_contra absent
    exact found (origins_eq_nil absent)

/-- Sets with the same origins under every address are the same. -/
theorem ext (wellFormed : set.WellFormed) (otherWellFormed : other.WellFormed)
    (same : ∀ url, set.origins url = other.origins url) : set = other := by
  have sameUrls : set.urls = other.urls := by
    refine wellFormed.increasing.eq_of_mem_iff otherWellFormed.increasing fun url => ?_
    rw [wellFormed.mem_urls_iff, otherWellFormed.mem_urls_iff, same]
  have sameEntries : set.entries = other.entries := by
    rw [wellFormed.entries_eq, otherWellFormed.entries_eq, sameUrls]
    exact List.map_congr_left fun url _ => by rw [same]
  exact congrArg LinkSet.mk sameEntries

/-- All places together are those under each of the addresses. -/
theorem sum_length_origins (wellFormed : set.WellFormed) :
    (set.urls.map fun url => (set.origins url).length).sum = set.places := by
  rw [places, wellFormed.entries_eq, List.map_map]
  rfl

theorem insert_fst_iff (wellFormed : set.WellFormed) :
    (set.insert url origin).1 = true ↔ url ∉ set.urls := by
  change ((set.insert url origin).2.origins url).length == 1 ↔ _
  rw [origins_insert wellFormed, if_pos rfl, List.length_append, List.length_singleton, beq_iff_eq,
    Nat.add_eq_right, List.length_eq_zero_iff, wellFormed.mem_urls_iff, not_not]

theorem insert_comm (wellFormed : set.WellFormed) {first second : String × Origin}
    (different : first.1 ≠ second.1) :
    set.insertAll [first, second] = set.insertAll [second, first] := by
  refine wellFormed.insertAll.ext wellFormed.insertAll fun url => ?_
  rw [origins_insertAll wellFormed, origins_insertAll wellFormed]
  by_cases asked : first.1 = url
  · have other : second.1 ≠ url := fun same => different (asked.trans same.symm)
    simp [asked, other]
  · simp [List.filter_cons, asked]

end WellFormed

/-! ## A set and its history -/

/-- What a set says of the links that were added, one after the other, to make it. -/
structure Records (set : LinkSet) (history : List (String × Origin)) : Prop where
  increasing : set.urls.Pairwise fun first second => Text.bytes first < Text.bytes second
  mem_urls : ∀ url, url ∈ set.urls ↔ ∃ link ∈ history, link.1 = url
  size : set.size = set.urls.length
  isEmpty : set.isEmpty = true ↔ history = []
  origins : ∀ url, set.origins url = (history.filter (·.1 = url)).map Prod.snd
  origins_eq_nil : ∀ url, set.origins url = [] ↔ ∀ link ∈ history, link.1 ≠ url
  /-- The next insertion answers whether it is the first one with its address. -/
  answer : ∀ url origin, (set.insert url origin).1 = true ↔ ∀ link ∈ history, link.1 ≠ url
  places : (set.urls.map fun url => (set.origins url).length).sum = history.length

theorem records_insertAll (history : List (String × Origin)) :
    (empty.insertAll history).Records history := by
  have wellFormed : (empty.insertAll history).WellFormed := WellFormed.empty.insertAll
  have member (url : String) : url ∈ (empty.insertAll history).urls ↔ ∃ link ∈ history, link.1 = url :=
    mem_urls_insertAll.trans (or_iff_right List.not_mem_nil)
  have absent (url : String) : url ∉ (empty.insertAll history).urls ↔ ∀ link ∈ history, link.1 ≠ url := by
    rw [member]
    push Not
    rfl
  have places : (empty.insertAll history).places = history.length :=
    (places_insertAll empty history).trans (Nat.zero_add _)
  refine ⟨?increasing, member, ?size, ?isEmpty, ?origins, ?none, ?answer, ?places⟩
  case increasing => exact wellFormed.increasing.imp Text.lt_iff_bytes_lt.mp
  case size => exact (List.length_map _).symm
  case isEmpty =>
    constructor
    · intro none
      have noEntry : (empty.insertAll history).entries = [] := List.isEmpty_iff.mp none
      rw [LinkSet.places, noEntry] at places
      exact List.length_eq_zero_iff.mp places.symm
    · rintro rfl
      rfl
  case origins => exact fun url => origins_insertAll WellFormed.empty
  case none =>
    intro url
    rw [← absent, wellFormed.mem_urls_iff, not_not]
  case answer => exact fun url origin => wellFormed.insert_fst_iff.trans (absent url)
  case places => rw [wellFormed.sum_length_origins, places]

/-- A set that is made from any links, one after the other, records them: its addresses are those of the
links, in increasing order of their bytes, with the origins of each in the order in which they came, and
an insertion answers whether its address is a new one. Two links next to each other can change places
if their addresses are different. -/
theorem insertAll_records_history (history : List (String × Origin)) :
    (empty.insertAll history).Records history ∧
      ∀ first second after, first.1 ≠ second.1 →
        empty.insertAll (history ++ first :: second :: after) =
          empty.insertAll (history ++ second :: first :: after) := by
  refine ⟨records_insertAll history, ?_⟩
  intro first second after different
  have wellFormed : (empty.insertAll history).WellFormed := WellFormed.empty.insertAll
  have regroup (pair : List (String × Origin)) :
      empty.insertAll (history ++ (pair ++ after)) =
        ((empty.insertAll history).insertAll pair).insertAll after := by
    rw [insertAll_append, insertAll_append]
  calc empty.insertAll (history ++ first :: second :: after)
      = ((empty.insertAll history).insertAll [first, second]).insertAll after :=
        regroup [first, second]
    _ = ((empty.insertAll history).insertAll [second, first]).insertAll after := by
        rw [wellFormed.insert_comm different]
    _ = empty.insertAll (history ++ second :: first :: after) := (regroup [second, first]).symm

/-- One address at two places, with another address between them. -/
theorem insertAll_records_history_of_repeated_address :
    let written (line : Nat) : Origin := ⟨⟨"a.md"⟩, "x", line⟩
    let set := empty.insertAll [("b", written 1), ("a", written 2), ("b", written 3)]
    set.urls = ["a", "b"] ∧ set.origins "b" = [written 1, written 3] ∧
      (set.insert "b" (written 4)).1 = false ∧ (set.insert "c" (written 4)).1 = true ∧
      set = empty.insertAll [("a", written 2), ("b", written 1), ("b", written 3)] := by
  intro written set
  obtain ⟨records, -⟩ :=
    insertAll_records_history [("b", written 1), ("a", written 2), ("b", written 3)]
  have swapped := (insertAll_records_history []).2 ("b", written 1) ("a", written 2)
    [("b", written 3)] (by decide)
  refine ⟨by decide, records.origins "b", ?_, (records.answer "c" _).mpr (by decide), swapped⟩
  exact Bool.eq_false_iff.mpr fun new =>
    (records.answer "b" _).mp new ("b", written 1) List.mem_cons_self rfl

end LinkGate.LinkSet
