import LinkGate.Proofs.RemoteSpelling

/-!
# Short names of repositories

A build server names a repository as `owner/name`, where slashes around it do not count. The name is read on its
own, for the address of rendered documents, and it is made into an address to fetch from. Both lead to the same
repository, and an address to fetch from stays what it is when it is taken for a name once more.
-/

namespace LinkGate

namespace Text

/-! ## Both ends -/

variable {c : Char}

/-- Copies of a character around a row are dropped together with those at its own ends. -/
theorem dropEnds_append (c : Char) (s : List Char) (front behind : Nat) :
    dropEnds c (List.replicate front c ++ s ++ List.replicate behind c) = dropEnds c s := by
  have started (t : List Char) : (List.replicate front c ++ t).dropWhile (· == c) = t.dropWhile (· == c) :=
    List.dropWhile_append_of_pos (by simp)
  have ended (t : List Char) : dropEndWhile c (t ++ List.replicate behind c) = dropEndWhile c t := by
    rw [dropEndWhile, List.reverse_append, List.reverse_replicate,
      List.dropWhile_append_of_pos (by simp), dropEndWhile]
  rw [dropEnds, dropEnds, List.append_assoc, started, List.dropWhile_append]
  split
  · next empty =>
      have nothing : (List.replicate behind c).dropWhile (· == c) = [] :=
        List.dropWhile_eq_nil_iff.mpr (by simp)
      rw [nothing, List.isEmpty_iff.mp empty]
  · exact ended _

theorem exists_eq_append_dropWhile (c : Char) (s : List Char) :
    ∃ count, s = List.replicate count c ++ s.dropWhile (· == c) := by
  refine ⟨(s.takeWhile (· == c)).length, ?_⟩
  have copies : s.takeWhile (· == c) = List.replicate (s.takeWhile (· == c)).length c :=
    List.eq_replicate_iff.mpr ⟨rfl, fun x member => by simpa using List.mem_takeWhile_imp member⟩
  rw [← copies, List.takeWhile_append_dropWhile]

theorem exists_eq_dropEndWhile_append (c : Char) (s : List Char) :
    ∃ count, s = dropEndWhile c s ++ List.replicate count c := by
  obtain ⟨count, begun⟩ := exists_eq_append_dropWhile c s.reverse
  refine ⟨count, ?_⟩
  have turned := congrArg List.reverse begun
  rwa [List.reverse_reverse, List.reverse_append, List.reverse_replicate] at turned

/-- A row has copies of a character around what is left of it when these are dropped. -/
theorem exists_eq_append_dropEnds (c : Char) (s : List Char) :
    ∃ front behind,
      s = List.replicate front c ++ dropEnds c s ++ List.replicate behind c := by
  obtain ⟨front, begun⟩ := exists_eq_append_dropWhile c s
  obtain ⟨behind, ended⟩ := exists_eq_dropEndWhile_append c (s.dropWhile (· == c))
  refine ⟨front, behind, ?_⟩
  calc
    s = List.replicate front c ++ s.dropWhile (· == c) := begun
    _ = List.replicate front c ++ (dropEnds c s ++ List.replicate behind c) :=
      congrArg (List.replicate front c ++ ·) ended
    _ = List.replicate front c ++ dropEnds c s ++ List.replicate behind c :=
      (List.append_assoc _ _ _).symm

theorem dropEnds_eq_self {s : List Char} (first : s.head? ≠ some c) (last : s.getLast? ≠ some c) :
    dropEnds c s = s := by
  have keep {t : List Char} (begins : t.head? ≠ some c) : t.dropWhile (· == c) = t := by
    cases t with
    | nil => rfl
    | cons x rest =>
        refine List.dropWhile_cons_of_neg ?_
        rw [beq_iff_eq]
        exact fun same => begins (congrArg some same)
  rw [dropEnds, dropEndWhile, keep first, keep (by rwa [List.head?_reverse]), List.reverse_reverse]

end Text

namespace Repository

open Text

/-! ## Names with slashes around them -/

structure IsProper (r : Repository) : Prop where
  ownerFilled : r.owner ≠ ""
  nameFilled : r.name ≠ ""
  ownerNoSlash : '/' ∉ r.owner.toList
  nameNoSlash : '/' ∉ r.name.toList

/-- A repository as `owner/name` with slashes around it. -/
def shortSpelling (r : Repository) (front behind : Nat) : String :=
  String.ofList (List.replicate front '/') ++ r.owner ++ "/" ++ r.name ++
    String.ofList (List.replicate behind '/')

variable {r : Repository} {s : String}

theorem toList_shortSpelling (r : Repository) (front behind : Nat) :
    (r.shortSpelling front behind).toList =
      List.replicate front '/' ++ (r.owner.toList ++ '/' :: r.name.toList) ++
        List.replicate behind '/' := by
  simp [shortSpelling]

theorem IsProper.dropEnds_shortSpelling (proper : r.IsProper) (front behind : Nat) :
    dropEnds '/' (r.shortSpelling front behind).toList = r.owner.toList ++ '/' :: r.name.toList := by
  have ownerFilled : r.owner.toList ≠ [] := mt String.toList_eq_nil_iff.mp proper.ownerFilled
  have nameFilled : r.name.toList ≠ [] := mt String.toList_eq_nil_iff.mp proper.nameFilled
  rw [toList_shortSpelling, dropEnds_append]
  apply dropEnds_eq_self
  · rw [List.head?_append_of_ne_nil _ ownerFilled]
    exact fun begins => proper.ownerNoSlash (List.mem_of_head? begins)
  · rw [List.append_cons, List.getLast?_append_of_ne_nil _ nameFilled]
    exact fun ends => proper.nameNoSlash (List.mem_of_getLast? ends)

/-- A text names a repository on a build server if it is the owner and the name around a single slash, neither of
them empty, with any number of slashes around. -/
theorem ofShortName?_eq_some_iff :
    ofShortName? s = some r ↔ r.IsProper ∧ ∃ front behind, s = r.shortSpelling front behind := by
  constructor
  · intro found
    unfold ofShortName? at found
    split at found
    · contradiction
    · next owner name cut =>
        split at found
        · contradiction
        · next filled =>
            obtain rfl := Option.some.inj found
            obtain ⟨ownerNoSlash, written⟩ := of_splitOnce?_eq_some cut
            obtain ⟨front, behind, whole⟩ := exists_eq_append_dropEnds '/' s.toList
            simp only [Bool.or_eq_true, List.isEmpty_iff, List.contains_iff_mem, not_or] at filled
            obtain ⟨⟨ownerFilled, nameFilled⟩, nameNoSlash⟩ := filled
            refine ⟨⟨?_, ?_, ?_, ?_⟩, front, behind, String.toList_inj.mp ?_⟩
            · simpa using ownerFilled
            · simpa using nameFilled
            · rwa [String.toList_ofList]
            · rwa [String.toList_ofList]
            · rw [toList_shortSpelling, String.toList_ofList, String.toList_ofList, ← written]
              exact whole
  · rintro ⟨proper, front, behind, rfl⟩
    have ownerFilled : r.owner.toList.isEmpty = false :=
      List.isEmpty_eq_false_iff.mpr (mt String.toList_eq_nil_iff.mp proper.ownerFilled)
    have nameFilled : r.name.toList.isEmpty = false :=
      List.isEmpty_eq_false_iff.mpr (mt String.toList_eq_nil_iff.mp proper.nameFilled)
    have nameNoSlash : r.name.toList.contains '/' = false :=
      Bool.eq_false_iff.mpr fun member => proper.nameNoSlash (List.contains_iff_mem.mp member)
    rw [ofShortName?, proper.dropEnds_shortSpelling, splitOnce?_append_cons proper.ownerNoSlash]
    simp only [ownerFilled, nameFilled, nameNoSlash, Bool.or_self, Bool.false_eq_true, if_false,
      String.ofList_toList]

/-! ## Addresses to fetch from -/

/-- A text with a scheme, or with a user in front, is taken for an address. -/
def isAddress (s : String) : Bool :=
  occursIn "://".toList s.toList || "git@".toList.isPrefixOf s.toList

theorem cloneUrl_eq (s : String) :
    cloneUrl s =
      if isAddress (trim s) then trim s
      else "https://" ++ host ++ "/" ++ String.ofList (dropEnds '/' (trim s).toList) ++ ".git" := by
  rw [cloneUrl, String.ofList_toList]
  rfl

theorem isAddress_trim_made (name : String) :
    trim ("https://" ++ host ++ "/" ++ name ++ ".git") = "https://" ++ host ++ "/" ++ name ++ ".git" ∧
      isAddress ("https://" ++ host ++ "/" ++ name ++ ".git") = true := by
  constructor
  · have written : "https://" ++ host ++ "/" ++ name ++ ".git" =
        String.ofList ('h' :: ("ttps://github.com/".toList ++ name.toList ++ ".gi".toList) ++ ['t']) := by
      apply String.toList_inj.mp
      simp [host]
    have begins : isWhitespace 'h' = false := by decide
    have ends : isWhitespace 't' = false := by decide
    rw [written, trim_append begins ends]
    rfl
  · rw [isAddress, Bool.or_eq_true]
    refine Or.inl (occursIn_iff.mpr ?_)
    refine ⟨"https".toList, (host ++ "/" ++ name ++ ".git").toList, ?_⟩
    simp

/-- An address to fetch from is the one to fetch from when it is taken for a name. -/
theorem cloneUrl_cloneUrl (s : String) : cloneUrl (cloneUrl s) = cloneUrl s := by
  rw [cloneUrl_eq s]
  split
  · next address => rw [cloneUrl_eq, trim_trim, if_pos address]
  · obtain ⟨trimmed, address⟩ := isAddress_trim_made (String.ofList (dropEnds '/' (trim s).toList))
    rw [cloneUrl_eq, trimmed, if_pos address]

/-! ## Both readings of a name -/

/-- A character that is no whitespace and none of those by which an address is told from a name and a name is
divided. -/
def IsNameCharacter (c : Char) : Prop :=
  isWhitespace c = false ∧ c ∉ ['/', ':', '@']

theorem isNameCharacter_of_isAlphanum {c : Char} (usual : c.isAlphanum = true ∨ c ∈ ['-', '_', '.']) :
    IsNameCharacter c := by
  rcases usual with usual | other
  · have code : 48 ≤ c.toNat ∧ c.toNat ≤ 57 ∨ 65 ≤ c.toNat ∧ c.toNat ≤ 90 ∨
        97 ≤ c.toNat ∧ c.toNat ≤ 122 := by
      rcases (Bool.or_eq_true _ _).mp usual with letter | digit
      · rcases (Bool.or_eq_true _ _).mp letter with upper | lower
        · exact Or.inr (Or.inl (of_decide_eq_true upper))
        · obtain ⟨above, below⟩ := (Bool.and_eq_true _ _).mp lower
          exact Or.inr (Or.inr ⟨of_decide_eq_true above, of_decide_eq_true below⟩)
      · obtain ⟨above, below⟩ := (Bool.and_eq_true _ _).mp digit
        exact Or.inl ⟨of_decide_eq_true above, of_decide_eq_true below⟩
    constructor
    · simp only [isWhitespace, Bool.or_eq_false_iff, Bool.and_eq_false_iff, beq_eq_false_iff_ne,
        decide_eq_false_iff_not]
      omega
    · intro member
      simp only [List.mem_cons, List.not_mem_nil, or_false] at member
      rcases member with rfl | rfl | rfl <;> simp at code
  · simp only [List.mem_cons, List.not_mem_nil, or_false] at other
    rcases other with rfl | rfl | rfl <;> exact ⟨by decide, by decide⟩

theorem not_mem_dropEnds {c : Char} {s : List Char} (absent : c ∉ s) : c ∉ dropEnds c s := by
  rw [dropEnds_eq_self]
  · exact absent
  · exact fun begins => absent (List.mem_of_head? begins)
  · exact fun ends => absent (List.mem_of_getLast? ends)

theorem ofPath?_of_not_mem {path : List Char} (noSlash : '/' ∉ path) : ofPath? path = none := by
  have kept : '/' ∉ dropEndWhile '/' path := fun member =>
    noSlash ((List.rdropWhile_prefix (· == '/') path).subset member)
  rw [ofPath?, List.splitOn_eq_singleton kept]

section Plain

variable (plain : ∀ c ∈ r.owner.toList ++ r.name.toList, IsNameCharacter c)

include plain

theorem noSlash_of_plain : '/' ∉ r.owner.toList ∧ '/' ∉ r.name.toList := by
  rw [← not_or, ← List.mem_append]
  exact fun member => (plain '/' member).2 List.mem_cons_self

/-- A name is made into an address with what is left of it without the slashes around it. -/
theorem cloneUrl_shortSpelling (front behind : Nat) :
    cloneUrl (r.shortSpelling front behind) =
      "https://" ++ host ++ "/" ++ String.ofList (dropEnds '/' (r.shortSpelling front behind).toList) ++
        ".git" := by
  -- No character of a name with slashes around it makes it an address or can be trimmed.
  have fits : ∀ c ∈ (r.shortSpelling front behind).toList,
      isWhitespace c = false ∧ c ≠ ':' ∧ c ≠ '@' := by
    intro c member
    have inParts : c = '/' ∨ IsNameCharacter c := by
      rw [toList_shortSpelling] at member
      simp only [List.mem_append, List.mem_cons, List.mem_replicate] at member
      rcases member with (⟨-, slash⟩ | inOwner | slash | inName) | ⟨-, slash⟩
      · exact Or.inl slash
      · exact Or.inr (plain c (List.mem_append_left _ inOwner))
      · exact Or.inl slash
      · exact Or.inr (plain c (List.mem_append_right _ inName))
      · exact Or.inl slash
    rcases inParts with rfl | ⟨visible, apart⟩
    · decide
    · simp only [List.mem_cons, List.not_mem_nil, or_false, not_or] at apart
      exact ⟨visible, apart.2⟩
  have trimmed : trim (r.shortSpelling front behind) = r.shortSpelling front behind := by
    have kept := trim_eq_self (fun c first => (fits c (List.mem_of_head? first)).1)
      fun c last => (fits c (List.mem_of_getLast? last)).1
    rwa [String.ofList_toList] at kept
  have noAddress : isAddress (r.shortSpelling front behind) = false := by
    rw [isAddress, Bool.or_eq_false_iff, ← Bool.not_eq_true, ← Bool.not_eq_true, occursIn_iff,
      List.isPrefixOf_iff_prefix]
    constructor
    · intro scheme
      exact (fits ':' (scheme.subset (by decide))).2.1 rfl
    · intro user
      exact (fits '@' (user.subset (by decide))).2.2 rfl
  rw [cloneUrl_eq, trimmed, noAddress, if_neg Bool.false_ne_true]

/-- The address that is made from the name of a repository names this repository. -/
theorem ofRemoteUrl?_cloneUrl (proper : r.IsProper) (front behind : Nat) :
    ofRemoteUrl? (cloneUrl (r.shortSpelling front behind)) = some r := by
  obtain ⟨ownerVisible, nameVisible⟩ := List.forall_mem_append.mp plain
  have ownerFits : IsAddressPart r.owner :=
    ⟨proper.ownerFilled, proper.ownerNoSlash, fun c member => (ownerVisible c member).1⟩
  have nameFits : IsAddressPart r.name :=
    ⟨proper.nameFilled, proper.nameNoSlash, fun c member => (nameVisible c member).1⟩
  have known : ["https://"].Sublist schemes := by decide
  have nothing : ∀ c ∈ "".toList, isWhitespace c = true := List.all_eq_true.mp (by decide)
  have read := ofRemoteUrl?_parts known (Or.inl rfl) ownerFits (nameFits.append (Or.inl rfl)) 0 nothing nothing
  rw [under?_append_suffix nameFits (Or.inl rfl)] at read
  rw [cloneUrl_shortSpelling plain, proper.dropEnds_shortSpelling, ← read]
  congr 1
  apply String.toList_inj.mp
  simp [host]

/-- Without an owner or without a name, only one part is left without the slashes around it. -/
theorem noSlash_dropEnds_shortSpelling (missing : r.owner = "" ∨ r.name = "") (front behind : Nat) :
    '/' ∉ dropEnds '/' (r.shortSpelling front behind).toList := by
  obtain ⟨ownerNoSlash, nameNoSlash⟩ := noSlash_of_plain plain
  rw [toList_shortSpelling]
  rcases missing with empty | empty
  · have moved : List.replicate front '/' ++ (r.owner.toList ++ '/' :: r.name.toList) =
        List.replicate (front + 1) '/' ++ r.name.toList := by
      rw [empty, List.replicate_succ']
      simp
    rw [moved, dropEnds_append]
    exact not_mem_dropEnds nameNoSlash
  · have moved : List.replicate front '/' ++ (r.owner.toList ++ '/' :: r.name.toList) ++
          List.replicate behind '/' =
        List.replicate front '/' ++ r.owner.toList ++ List.replicate (behind + 1) '/' := by
      rw [empty, List.replicate_succ]
      simp
    rw [moved, dropEnds_append]
    exact not_mem_dropEnds ownerNoSlash

/-- The address that is made from a single part names no repository. -/
theorem ofRemoteUrl?_cloneUrl_of_missing (missing : r.owner = "" ∨ r.name = "") (front behind : Nat) :
    ofRemoteUrl? (cloneUrl (r.shortSpelling front behind)) = none := by
  let part := dropEnds '/' (r.shortSpelling front behind).toList
  have known : ["https://"].Sublist schemes := by decide
  have noSlash : '/' ∉ trimEnd (part ++ ".git".toList) := by
    intro member
    have inPart := (List.rdropWhile_prefix isWhitespace _).subset member
    rcases List.mem_append.mp inPart with inPart | inSuffix
    · exact noSlash_dropEnds_shortSpelling plain missing front behind inPart
    · exact absurd inSuffix (by decide)
  have written : cloneUrl (r.shortSpelling front behind) =
      String.ofList ((["https://"] ++ [host]).flatMap String.toList ++ '/' :: (part ++ ".git".toList)) := by
    rw [cloneUrl_shortSpelling plain]
    apply String.toList_inj.mp
    simp [part]
  rw [written, ofRemoteUrl?_append known (Or.inl rfl), ofPath?_of_not_mem noSlash]

end Plain

/-- The address that is made from a name with slashes around it names the repository that is read off the name for
the address of rendered documents: the owner and the name as they are spelt, or none if one of them is empty. And
an address to fetch from is not changed by making an address of it once more, whatever it was made from. -/
theorem cloneUrl_names_same_repository
    (plain : ∀ c ∈ r.owner.toList ++ r.name.toList, IsNameCharacter c) (front behind : Nat) :
    let s := r.shortSpelling front behind
    ofRemoteUrl? (cloneUrl s) = ofShortName? s ∧
      ofShortName? s = (if r.owner = "" ∨ r.name = "" then none else some r) ∧
      ∀ t, cloneUrl (cloneUrl t) = cloneUrl t := by
  intro s
  by_cases missing : r.owner = "" ∨ r.name = ""
  · have unread : ofShortName? s = none := by
      rw [ofShortName?, splitOnce?_of_not_mem (noSlash_dropEnds_shortSpelling plain missing front behind)]
    rw [unread, if_pos missing]
    exact ⟨ofRemoteUrl?_cloneUrl_of_missing plain missing front behind, rfl, cloneUrl_cloneUrl⟩
  · obtain ⟨ownerFilled, nameFilled⟩ := not_or.mp missing
    obtain ⟨ownerNoSlash, nameNoSlash⟩ := noSlash_of_plain plain
    have proper : r.IsProper := ⟨ownerFilled, nameFilled, ownerNoSlash, nameNoSlash⟩
    have read : ofShortName? s = some r := ofShortName?_eq_some_iff.mpr ⟨proper, front, behind, rfl⟩
    rw [read, if_neg missing]
    exact ⟨ofRemoteUrl?_cloneUrl plain proper front behind, rfl, cloneUrl_cloneUrl⟩

/-- A name that ends in `.git`, with slashes around the owner and the name. -/
theorem cloneUrl_names_same_repository_of_git_name :
    let r : Repository := ⟨"o-1", "My_repo.git"⟩
    (∀ c ∈ r.owner.toList ++ r.name.toList, IsNameCharacter c) ∧
      r.shortSpelling 2 1 = "//o-1/My_repo.git/" ∧
      cloneUrl "//o-1/My_repo.git/" = "https://github.com/o-1/My_repo.git.git" ∧
      ofRemoteUrl? (cloneUrl (r.shortSpelling 2 1)) = ofShortName? (r.shortSpelling 2 1) ∧
      ofShortName? (r.shortSpelling 2 1) = some r := by
  intro r
  have usual : (r.owner.toList ++ r.name.toList).all (fun c => c.isAlphanum || ['-', '_', '.'].contains c) =
      true := by
    decide
  have plain : ∀ c ∈ r.owner.toList ++ r.name.toList, IsNameCharacter c := by
    intro c member
    have letter := List.all_eq_true.mp usual c member
    rw [Bool.or_eq_true, List.contains_iff_mem] at letter
    exact isNameCharacter_of_isAlphanum letter
  obtain ⟨same, read, -⟩ := cloneUrl_names_same_repository plain 2 1
  exact ⟨plain, by decide, by decide +kernel, same, read⟩

end Repository

end LinkGate
