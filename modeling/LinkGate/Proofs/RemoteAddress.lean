import LinkGate.BaseUrl
import LinkGate.Proofs.AnchorAddress
import LinkGate.Proofs.TrimmedLines

/-!
# Addresses of remotes

The repository that the address of a remote names is read off its text alone. Schemes and users in front of
the host are taken off, each in its turn. Behind the host and a slash or a colon the first two parts are the
owner and the name, and what follows the name makes no difference.
-/

namespace LinkGate

namespace Text

variable {mark s : List Char} {c : Char}

/-! ## Taking marks off -/

theorem stripRepeated_append (nonempty : mark ≠ []) (s : List Char) :
    stripRepeated mark (mark ++ s) = stripRepeated mark s := by
  have begins : mark.isPrefixOf (mark ++ s) = true :=
    List.isPrefixOf_iff_prefix.mpr (List.prefix_append mark s)
  rw [stripRepeated, dif_pos ⟨nonempty, begins⟩, List.drop_left]

theorem stripRepeated_eq_self (absent : ¬ mark <+: s) : stripRepeated mark s = s := by
  rw [stripRepeated, dif_neg]
  rintro ⟨-, begins⟩
  exact absent (List.isPrefixOf_iff_prefix.mp begins)

theorem stripStart?_append (mark s : List Char) : stripStart? mark (mark ++ s) = some s := by
  rw [stripStart?, if_pos (List.isPrefixOf_iff_prefix.mpr (List.prefix_append mark s)), List.drop_left]

theorem stripStart?_eq_none (absent : ¬ mark <+: s) : stripStart? mark s = none := by
  rw [stripStart?, if_neg]
  exact fun begins => absent (List.isPrefixOf_iff_prefix.mp begins)

/-! ## Ends and parts -/

theorem dropEndWhile_append_cons {other : Char} (different : other ≠ c) (front s : List Char) :
    dropEndWhile c (front ++ other :: s) = front ++ other :: dropEndWhile c s :=
  rdropWhile_append_cons (p := (· == c)) (beq_eq_false_iff_ne.mpr different) front s

/-- A character at the beginning is dropped as well if all behind it are. -/
theorem dropEndWhile_cons_self (c : Char) (s : List Char) :
    dropEndWhile c (c :: s) = if dropEndWhile c s = [] then [] else c :: dropEndWhile c s := by
  have turned : (c :: s).reverse = s.reverse ++ [c] := List.reverse_cons
  rw [dropEndWhile, turned, List.dropWhile_append]
  simp only [List.isEmpty_iff, dropEndWhile, List.reverse_eq_nil_iff]
  split <;> simp

theorem takeWhile_dropEndWhile (c : Char) (s : List Char) :
    (dropEndWhile c s).takeWhile (· != c) = s.takeWhile (· != c) := by
  induction s with
  | nil => rfl
  | cons first rest ih =>
      by_cases same : first = c
      · rw [same, dropEndWhile_cons_self]
        split <;> simp
      · rw [← List.nil_append (first :: rest), dropEndWhile_append_cons same]
        simp only [List.nil_append, List.takeWhile_cons, ih]

theorem takeWhile_append_cons_self (before after : List Char) :
    (before ++ c :: after).takeWhile (· != c) = before.takeWhile (· != c) := by
  induction before with
  | nil => simp
  | cons first rest ih => simp only [List.cons_append, List.takeWhile_cons, ih]

theorem exists_splitOn_eq_cons (c : Char) (s : List Char) :
    ∃ others, s.splitOn c = s.takeWhile (· != c) :: others := by
  by_cases member : c ∈ s
  · obtain ⟨before, after, rfl, first⟩ := List.eq_append_cons_of_mem member
    exact ⟨_, by rw [List.splitOn_append_cons_self_of_not_mem first, takeWhile_append_cons first]⟩
  · refine ⟨[], ?_⟩
    rw [List.splitOn_eq_singleton member, List.takeWhile_eq_self_iff.mpr (forall_bne_of_not_mem member)]

end Text

namespace Repository

open Text

/-! ## Owners and names -/

def shortName (name : List Char) : List Char :=
  (stripEnd? ".git".toList name).getD name

/-- The repository of an owner under a name, if the name is not empty. -/
def under? (owner name : List Char) : Option Repository :=
  if (shortName name).isEmpty then none
  else some ⟨String.ofList owner, String.ofList (shortName name)⟩

theorem shortName_eq_nil_iff {name : List Char} :
    shortName name = [] ↔ name = [] ∨ name = ".git".toList := by
  unfold shortName stripEnd?
  split
  · next ends =>
      obtain ⟨front, rfl⟩ := List.isSuffixOf_iff_suffix.mp ends
      simp
  · next without =>
      simp only [Option.getD_none, iff_self_or]
      rintro rfl
      exact absurd (by decide) without

theorem shortName_of_not_suffix {name : List Char} (without : ¬ ".git".toList <:+ name) :
    shortName name = name := by
  rw [shortName, stripEnd?, if_neg, Option.getD_none]
  exact fun ends => without (List.isSuffixOf_iff_suffix.mp ends)

/-- A name that does not end in a `t` is left as it is. -/
theorem shortName_eq_self {name : List Char} (last : name.getLast? ≠ some 't') :
    shortName name = name := by
  apply shortName_of_not_suffix
  rintro ⟨front, rfl⟩
  exact last (by rw [List.getLast?_append]; rfl)

theorem shortName_subset (name : List Char) : shortName name ⊆ name := by
  unfold shortName stripEnd?
  split
  · exact List.take_subset _ _
  · exact fun _ member => member

/-- In a path, the owner is followed by the name, up to the next slash or the end. -/
theorem ofPath?_append {owner : List Char} (nonempty : owner ≠ []) (noSlash : '/' ∉ owner)
    (rest : List Char) :
    ofPath? (owner ++ '/' :: rest) = under? owner (rest.takeWhile (· != '/')) := by
  have dropped : dropEndWhile '/' (owner ++ '/' :: rest) =
      owner ++ dropEndWhile '/' ('/' :: rest) := by
    obtain ⟨front, last, rfl⟩ := List.eq_nil_or_concat owner |>.resolve_left nonempty
    have different : last ≠ '/' := fun slash => noSlash (by simp [slash])
    rw [List.concat_eq_append, List.append_assoc, List.singleton_append,
      dropEndWhile_append_cons different, List.append_assoc, List.singleton_append]
  rw [ofPath?, dropped, dropEndWhile_cons_self, ← takeWhile_dropEndWhile]
  by_cases ended : dropEndWhile '/' rest = []
  · rw [if_pos ended, List.append_nil, List.splitOn_eq_singleton noSlash, ended]
    rfl
  · obtain ⟨others, parts⟩ := exists_splitOn_eq_cons '/' (dropEndWhile '/' rest)
    have filled : owner.isEmpty = false := List.isEmpty_eq_false_iff.mpr nonempty
    rw [if_neg ended, List.splitOn_append_cons_self_of_not_mem noSlash, parts]
    simp only [filled, Bool.false_or]
    rfl

/-! ## Hosts -/

/-- A mark that stands at no beginning of some others, nor they at one of its own, is not taken off in front
of the others. -/
theorem stripRepeated_of_apart {mark : List Char} {others : List String} {s : List Char}
    (nonempty : others ≠ [])
    (apart : ∀ other ∈ others, ¬ mark <+: other.toList ∧ ¬ other.toList <+: mark) :
    stripRepeated mark (others.flatMap String.toList ++ s) = others.flatMap String.toList ++ s := by
  obtain ⟨other, rest, rfl⟩ := List.exists_cons_of_ne_nil nonempty
  obtain ⟨noBeginning, beginsNot⟩ := apart other List.mem_cons_self
  rw [List.flatMap_cons, List.append_assoc]
  apply stripRepeated_eq_self
  intro begins
  rcases List.prefix_or_prefix_of_prefix begins (List.prefix_append _ _) with longer | shorter
  · exact noBeginning longer
  · exact beginsNot shorter

/-- Some marks in front of the host are taken off if all of them are tried in their order. -/
theorem foldl_stripRepeated {marks all : List String} (among : marks.Sublist all)
    (apart : (all ++ [host]).Pairwise fun mark other =>
      mark.toList ≠ [] ∧ ¬ mark.toList <+: other.toList ∧ ¬ other.toList <+: mark.toList)
    (s : List Char) :
    all.foldl (fun s mark => stripRepeated mark.toList s)
      ((marks ++ [host]).flatMap String.toList ++ s) = host.toList ++ s := by
  induction among with
  | slnil => simp
  | @cons marks all mark rest ih =>
      obtain ⟨here, there⟩ := List.pairwise_cons.mp apart
      have subset : marks ++ [host] ⊆ all ++ [host] := (rest.append_right [host]).subset
      rw [List.foldl_cons, stripRepeated_of_apart (by simp) fun other known => (here other (subset known)).2]
      exact ih there
  | @cons_cons marks all mark rest ih =>
      obtain ⟨here, there⟩ := List.pairwise_cons.mp apart
      have subset : marks ++ [host] ⊆ all ++ [host] := (rest.append_right [host]).subset
      have nonempty : mark.toList ≠ [] := (here host (by simp)).1
      rw [List.foldl_cons, List.cons_append, List.flatMap_cons, List.append_assoc,
        stripRepeated_append nonempty,
        stripRepeated_of_apart (by simp) fun other known => (here other (subset known)).2]
      exact ih there

theorem fromHost_append {marks : List String} (known : marks.Sublist schemes) (s : List Char) :
    fromHost (String.ofList ((marks ++ [host]).flatMap String.toList ++ s)) =
      host.toList ++ trimEnd s := by
  have visible : (schemes ++ [host]).all (fun mark => mark.toList.all (!isWhitespace ·)) = true := by
    decide
  simp only [List.all_eq_true, Bool.not_eq_true'] at visible
  have subset : marks ++ [host] ⊆ schemes ++ [host] := (known.append_right [host]).subset
  rw [fromHost, trim_append_of_visible, String.toList_ofList, foldl_stripRepeated known (by decide)]
  · simp [host]
  · intro c member
    obtain ⟨mark, listed, inMark⟩ := List.mem_flatMap.mp member
    exact visible mark (subset listed) c inMark

/-- A repository is read off what follows the host and a slash or a colon. -/
theorem ofRemoteUrl?_append {marks : List String} (known : marks.Sublist schemes) {separator : Char}
    (separates : separator = '/' ∨ separator = ':') (s : List Char) :
    ofRemoteUrl? (String.ofList ((marks ++ [host]).flatMap String.toList ++ separator :: s)) =
      ofPath? (trimEnd s) := by
  have visible : isWhitespace separator = false := by
    rcases separates with rfl | rfl <;> decide
  have kept : trimEnd (separator :: s) = separator :: trimEnd s :=
    rdropWhile_append_cons (p := isWhitespace) visible [] s
  simp only [ofRemoteUrl?, fromHost_append known, kept]
  rcases separates with rfl | rfl
  · have parts : host.toList ++ '/' :: trimEnd s = (host ++ "/").toList ++ trimEnd s := by
      rw [String.toList_append, List.append_assoc]
      rfl
    rw [parts, stripStart?_append]
    rfl
  · have parts : host.toList ++ ':' :: trimEnd s = (host ++ ":").toList ++ trimEnd s := by
      rw [String.toList_append, List.append_assoc]
      rfl
    rw [stripStart?_eq_none (by simp [host]), parts, stripStart?_append]
    rfl

end Repository

end LinkGate
