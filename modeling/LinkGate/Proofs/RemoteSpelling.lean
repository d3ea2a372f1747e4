import LinkGate.Proofs.RemoteAddress

/-!
# Spellings of remotes

The same repository is spelt in many ways: with one of several starts in front of the owner, with or without
`.git` behind the name, with slashes behind it and with whitespace around everything. All of them name the same
owner and the same name, and no letter of either is lost, whatever they look like.
-/

namespace LinkGate

namespace Text

theorem takeWhile_append_replicate {c : Char} {s : List Char} (absent : c ∉ s) (count : Nat) :
    (s ++ List.replicate count c).takeWhile (· != c) = s := by
  cases count with
  | zero =>
      rw [List.replicate_zero, List.append_nil, List.takeWhile_eq_self_iff.mpr (forall_bne_of_not_mem absent)]
  | succ count => rw [List.replicate_succ, takeWhile_append_cons absent]

end Text

namespace Repository

open Text

/-! ## Names -/

theorem shortName_append (name : List Char) : shortName (name ++ ".git".toList) = name := by
  have ends : ".git".toList.isSuffixOf (name ++ ".git".toList) = true :=
    List.isSuffixOf_iff_suffix.mpr (List.suffix_append _ _)
  rw [shortName, stripEnd?, if_pos ends, Option.getD_some, List.length_append, Nat.add_sub_cancel,
    List.take_left]

/-- A text that can be the owner or the name in an address: something without slashes and without
whitespace. -/
structure IsAddressPart (part : String) : Prop where
  filled : part ≠ ""
  noSlash : '/' ∉ part.toList
  visible : ∀ c ∈ part.toList, isWhitespace c = false

theorem isAddressPart_iff {part : String} :
    IsAddressPart part ↔
      part ≠ "" ∧ '/' ∉ part.toList ∧ part.toList.all (!isWhitespace ·) = true := by
  simp only [List.all_eq_true, Bool.not_eq_true']
  exact ⟨fun fits => ⟨fits.filled, fits.noSlash, fits.visible⟩,
    fun ⟨filled, noSlash, visible⟩ => ⟨filled, noSlash, visible⟩⟩

instance (part : String) : Decidable (IsAddressPart part) :=
  decidable_of_iff' _ isAddressPart_iff

variable {owner name start suffix front behind : String}

theorem IsAddressPart.append (fits : IsAddressPart name) (known : suffix = ".git" ∨ suffix = "") :
    IsAddressPart (name ++ suffix) := by
  rcases known with rfl | rfl
  · have ending : IsAddressPart ".git" := by decide
    refine ⟨?_, ?_, ?_⟩
    · intro empty
      exact fits.filled (String.append_eq_empty_iff.mp empty).1
    · rw [String.toList_append, List.mem_append, not_or]
      exact ⟨fits.noSlash, ending.noSlash⟩
    · rw [String.toList_append]
      exact List.forall_mem_append.mpr ⟨fits.visible, ending.visible⟩
  · rwa [String.append_empty]

theorem under?_append_suffix (fits : IsAddressPart name)
    (ends : suffix = ".git" ∨ suffix = "" ∧ ¬ ".git".toList <:+ name.toList) :
    under? owner.toList (name ++ suffix).toList = some ⟨owner, name⟩ := by
  have short : shortName (name ++ suffix).toList = name.toList := by
    rw [String.toList_append]
    rcases ends with rfl | ⟨rfl, without⟩
    · exact shortName_append _
    · rw [String.toList_empty, List.append_nil, shortName_of_not_suffix without]
  have filled : name.toList.isEmpty = false :=
    List.isEmpty_eq_false_iff.mpr (mt String.toList_eq_nil_iff.mp fits.filled)
  rw [under?, short, filled, if_neg Bool.false_ne_true, String.ofList_toList, String.ofList_toList]

/-! ## Addresses -/

theorem ofRemoteUrl?_congr {first second : String} (same : trim first = trim second) :
    ofRemoteUrl? first = ofRemoteUrl? second := by
  rw [ofRemoteUrl?, ofRemoteUrl?, fromHost, fromHost, same]

/-- Behind schemes, users and the host, the owner and the name are found up to the slashes and the whitespace
at the end. -/
theorem ofRemoteUrl?_parts {marks : List String} (known : marks.Sublist schemes) {separator : Char}
    (separates : separator = '/' ∨ separator = ':') (ownerFits : IsAddressPart owner)
    (nameFits : IsAddressPart name) (slashes : Nat)
    (blankFront : ∀ c ∈ front.toList, isWhitespace c = true)
    (blankBehind : ∀ c ∈ behind.toList, isWhitespace c = true) :
    ofRemoteUrl? (front ++ String.join marks ++ host ++ String.singleton separator ++ owner ++ "/" ++ name ++
        String.ofList (List.replicate slashes '/') ++ behind) =
      under? owner.toList name.toList := by
  let path := owner.toList ++ '/' :: (name.toList ++ List.replicate slashes '/')
  have written : front ++ String.join marks ++ host ++ String.singleton separator ++ owner ++ "/" ++ name ++
        String.ofList (List.replicate slashes '/') ++ behind =
      String.ofList (front.toList ++ ((marks ++ [host]).flatMap String.toList ++
        separator :: (path ++ behind.toList))) := by
    apply String.toList_inj.mp
    simp [path, String.toList_join]
  have visible : ∀ c ∈ path, isWhitespace c = false := by
    intro c member
    simp only [path, List.mem_append, List.mem_cons, List.mem_replicate] at member
    rcases member with inOwner | rfl | inName | ⟨-, rfl⟩
    · exact ownerFits.visible c inOwner
    · decide
    · exact nameFits.visible c inName
    · decide
  have nonempty : owner.toList ≠ [] := mt String.toList_eq_nil_iff.mp ownerFits.filled
  rw [written, ofRemoteUrl?_congr (trim_append_of_blank blankFront _), ofRemoteUrl?_append known separates,
    trimEnd_append_of_blank visible blankBehind, ofPath?_append nonempty ownerFits.noSlash,
    takeWhile_append_replicate nameFits.noSlash]

/-- What the address of a remote may begin with, up to the owner. -/
def addressStarts : List String :=
  ["https://github.com/", "http://github.com/", "github.com/", "git@github.com:",
    "ssh://git@github.com/", "https://www.github.com/", "http://www.github.com/", "www.github.com/",
    "git@www.github.com:", "ssh://git@www.github.com/"]

theorem exists_marks_of_mem_addressStarts (known : start ∈ addressStarts) :
    ∃ marks : List String, ∃ separator, marks.Sublist schemes ∧ (separator = '/' ∨ separator = ':') ∧
      start = String.join marks ++ host ++ String.singleton separator := by
  let fronts : List (List String × Char) :=
    [(["https://"], '/'), (["http://"], '/'), ([], '/'), (["git@"], ':'), (["ssh://", "git@"], '/'),
      (["https://", "www."], '/'), (["http://", "www."], '/'), (["www."], '/'), (["git@", "www."], ':'),
      (["ssh://", "git@", "www."], '/')]
  have listed : addressStarts =
      fronts.map fun front => String.join front.1 ++ host ++ String.singleton front.2 := by
    decide
  have fit : ∀ front ∈ fronts, front.1.Sublist schemes ∧ (front.2 = '/' ∨ front.2 = ':') := by
    decide
  rw [listed] at known
  obtain ⟨front, member, rfl⟩ := List.mem_map.mp known
  obtain ⟨among, separates⟩ := fit front member
  exact ⟨front.1, front.2, among, separates, rfl⟩

/-- Every spelling of an owner and a name as the address of a remote names this owner and this name: with any of
the starts, with `.git` behind the name or without it, with any number of slashes behind and any whitespace around.
Only a name that ends in `.git` itself has to be spelt with one more. -/
theorem remoteUrl_names_repository (known : start ∈ addressStarts) (ownerFits : IsAddressPart owner)
    (nameFits : IsAddressPart name)
    (ends : suffix = ".git" ∨ suffix = "" ∧ ¬ ".git".toList <:+ name.toList) (slashes : Nat)
    (blankFront : ∀ c ∈ front.toList, isWhitespace c = true)
    (blankBehind : ∀ c ∈ behind.toList, isWhitespace c = true) :
    ofRemoteUrl? (front ++ start ++ owner ++ "/" ++ name ++ suffix ++
        String.ofList (List.replicate slashes '/') ++ behind) = some ⟨owner, name⟩ := by
  obtain ⟨marks, separator, among, separates, rfl⟩ := exists_marks_of_mem_addressStarts known
  have wholeFits : IsAddressPart (name ++ suffix) :=
    nameFits.append (ends.imp_right fun without => without.1)
  have read := ofRemoteUrl?_parts among separates ownerFits wholeFits slashes blankFront blankBehind
  simp only [← String.append_assoc] at read ⊢
  rw [read, under?_append_suffix nameFits ends]

/-- A name that is made of the host and of letters like those of `.git`, under an owner that is spelt like a
user and the host. -/
theorem remoteUrl_names_lookalikes :
    IsAddressPart "git@www.github.com" ∧ IsAddressPart "github.com.git.digit" ∧
      ofRemoteUrl? " \tssh://git@www.github.com/git@www.github.com/github.com.git.digit.git//\n" =
        some ⟨"git@www.github.com", "github.com.git.digit"⟩ ∧
      ofRemoteUrl? "git@github.com:git@www.github.com/github.com.git.digit" =
        some ⟨"git@www.github.com", "github.com.git.digit"⟩ := by
  have ownerFits : IsAddressPart "git@www.github.com" := by decide
  have nameFits : IsAddressPart "github.com.git.digit" := by decide
  have begins : "ssh://git@www.github.com/" ∈ addressStarts := by decide
  have beginsShort : "git@github.com:" ∈ addressStarts := by decide
  have without : ¬ ".git".toList <:+ "github.com.git.digit".toList := by decide
  have front : ∀ c ∈ " \t".toList, isWhitespace c = true := List.all_eq_true.mp (by decide)
  have behind : ∀ c ∈ "\n".toList, isWhitespace c = true := List.all_eq_true.mp (by decide)
  have nothing : ∀ c ∈ "".toList, isWhitespace c = true := List.all_eq_true.mp (by decide)
  have long := remoteUrl_names_repository begins ownerFits nameFits (Or.inl rfl) 2 front behind
  have short := remoteUrl_names_repository beginsShort ownerFits nameFits (Or.inr ⟨rfl, without⟩) 0
    nothing nothing
  have longText : " \t" ++ "ssh://git@www.github.com/" ++ "git@www.github.com" ++ "/" ++
      "github.com.git.digit" ++ ".git" ++ String.ofList (List.replicate 2 '/') ++ "\n" =
        " \tssh://git@www.github.com/git@www.github.com/github.com.git.digit.git//\n" := by decide
  have shortText : "" ++ "git@github.com:" ++ "git@www.github.com" ++ "/" ++ "github.com.git.digit" ++ "" ++
      String.ofList (List.replicate 0 '/') ++ "" =
        "git@github.com:git@www.github.com/github.com.git.digit" := by decide
  rw [longText] at long
  rw [shortText] at short
  exact ⟨ownerFits, nameFits, long, short⟩

end Repository

end LinkGate
