import LinkGate.Proofs.RemoteAddress

/-!
# Ports in the addresses of remotes

A colon behind the host divides it from the path, as it does where no scheme stands in front. In an address
with a scheme a colon begins a port, and the port is read as the owner and the owner as the name. The
repository that is found is another one than the address names, unless the owner is such that none is found.
-/

namespace LinkGate

open Git

namespace Repository

open Text

/-! ## Addresses of different repositories -/

/-- Documents of different repositories are rendered under different addresses, as long as the parts of
one of the repositories hold no slash. -/
theorem treeUrl_eq_iff {first second : Repository} (ownerNoSlash : '/' ∉ first.owner.toList)
    (nameNoSlash : '/' ∉ first.name.toList) (ref : String) :
    first.treeUrl ref = second.treeUrl ref ↔ first = second := by
  constructor
  · intro same
    have parts : first.owner.toList ++ '/' :: first.name.toList =
        second.owner.toList ++ '/' :: second.name.toList := by
      rw [treeUrl_eq, treeUrl_eq] at same
      have lists := congrArg String.toList same
      simp only [String.toList_append, List.append_assoc, List.append_cancel_left_eq] at lists
      simp only [← List.append_assoc, List.append_cancel_right_eq] at lists
      simpa using lists
    -- The one slash on the left is the one on the right.
    have counted := congrArg (List.count '/') parts
    simp only [List.count_append, List.count_cons_self, List.count_eq_zero.mpr ownerNoSlash,
      List.count_eq_zero.mpr nameNoSlash] at counted
    have otherNoSlash : '/' ∉ second.owner.toList := List.count_eq_zero.mp (by omega)
    have cut := congrArg (splitOnce? '/') parts
    rw [splitOnce?_append_cons ownerNoSlash, splitOnce?_append_cons otherNoSlash, Option.some.injEq,
      Prod.mk.injEq, String.toList_inj, String.toList_inj] at cut
    obtain ⟨owner, name⟩ := first
    obtain ⟨rfl, rfl⟩ := cut
    rfl
  · rintro rfl
    rfl

theorem run_resolveBaseUrl {environment : Environment} {git : Behaviour} {earlier : List Call}
    {remote branch url : String} (noSlash : '/' ∉ remote.toList)
    (followed : git earlier .trackedBranch = .ok (some (remote ++ "/" ++ branch)))
    (lives : git (earlier ++ [.trackedBranch]) (.remoteUrl remote) = .ok url) :
    ((resolveBaseUrl environment).run git earlier).1 =
      .ok ((ofRemoteUrl? url).map (·.treeUrl branch)) := by
  exact congrArg Prod.fst (run_of_findsBase (.onRemote noSlash followed lives))

/-! ## Ports -/

def IsDecimal (s : String) : Prop :=
  s ≠ "" ∧ ∀ c ∈ s.toList, c.isDigit = true

def firstPart (s : String) : String :=
  String.ofList (s.toList.takeWhile (· != '/'))

variable {begins port : String}

theorem IsDecimal.not_mem (decimal : IsDecimal port) {c : Char} (noDigit : c.isDigit = false) :
    c ∉ port.toList := by
  intro member
  rw [decimal.2 c member] at noDigit
  contradiction

/-- A port is left as it is where it is taken for an owner or a name. -/
theorem IsDecimal.shortName_eq (decimal : IsDecimal port) : shortName port.toList = port.toList := by
  apply shortName_eq_self
  intro last
  exact decimal.not_mem (by decide) (List.mem_of_getLast? last)

theorem IsDecimal.firstPart_eq (decimal : IsDecimal port) : firstPart port = port := by
  rw [firstPart, List.takeWhile_eq_self_iff.mpr (forall_bne_of_not_mem (decimal.not_mem (by decide))),
    String.ofList_toList]

/-- Behind a port, the port is read as the owner and the first part of the owner as the name. -/
theorem ofRemoteUrl?_port {marks : List String} (known : marks.Sublist schemes) (decimal : IsDecimal port)
    (owner name ends : String) :
    ofRemoteUrl? (String.join marks ++ host ++ ":" ++ port ++ "/" ++ owner ++ "/" ++ name ++ ends) =
      under? port.toList (firstPart owner).toList := by
  have noSlash : '/' ∉ port.toList := decimal.not_mem (by decide)
  have nonempty : port.toList ≠ [] := fun empty => decimal.1 (String.toList_eq_nil_iff.mp empty)
  have written : String.join marks ++ host ++ ":" ++ port ++ "/" ++ owner ++ "/" ++ name ++ ends =
      String.ofList ((marks ++ [host]).flatMap String.toList ++
        ':' :: (port.toList ++ '/' :: owner.toList ++ '/' :: (name.toList ++ ends.toList))) := by
    apply String.toList_inj.mp
    simp [String.toList_join]
  have trimmed : trimEnd (port.toList ++ '/' :: owner.toList ++ '/' :: (name.toList ++ ends.toList)) =
      port.toList ++ '/' :: owner.toList ++ '/' :: trimEnd (name.toList ++ ends.toList) :=
    rdropWhile_append_cons (p := isWhitespace) (by decide) _ _
  rw [written, ofRemoteUrl?_append known (Or.inr rfl), trimmed, List.append_assoc, List.cons_append,
    ofPath?_append nonempty noSlash, takeWhile_append_cons_self, firstPart, String.toList_ofList]

/-- A port that is read as the owner gives no repository, or the right one, exactly if nothing is left of
the owner where it is read as the name, or if owner and name are both spelt like the port. -/
theorem under?_port_iff (decimal : IsDecimal port) (owner name : String) :
    (under? port.toList (firstPart owner).toList = none ∨
        under? port.toList (firstPart owner).toList = some ⟨owner, name⟩) ↔
      firstPart owner = "" ∨ firstPart owner = ".git" ∨ owner = port ∧ name = port := by
  have lost : shortName (firstPart owner).toList = [] ↔
      firstPart owner = "" ∨ firstPart owner = ".git" := by
    rw [shortName_eq_nil_iff, String.toList_eq_nil_iff, String.toList_inj]
  rw [← or_assoc, ← lost, under?]
  by_cases nothing : shortName (firstPart owner).toList = []
  · simp [nothing]
  · have found : (shortName (firstPart owner).toList).isEmpty = false :=
      List.isEmpty_eq_false_iff.mpr nothing
    simp only [found, Bool.false_eq_true, if_false, reduceCtorEq, false_or, nothing, Option.some.injEq,
      Repository.mk.injEq, String.ofList_toList]
    constructor
    · rintro ⟨rfl, rfl⟩
      rw [decimal.firstPart_eq, decimal.shortName_eq, String.ofList_toList]
      exact ⟨rfl, rfl⟩
    · rintro ⟨rfl, rfl⟩
      rw [decimal.firstPart_eq, decimal.shortName_eq, String.ofList_toList]
      exact ⟨rfl, rfl⟩

theorem noSlash_of_under?_port (decimal : IsDecimal port) {owner : String} {repository : Repository}
    (found : under? port.toList (firstPart owner).toList = some repository) :
    '/' ∉ repository.owner.toList ∧ '/' ∉ repository.name.toList := by
  rw [under?] at found
  split at found
  · contradiction
  · rw [Option.some.injEq] at found
    rw [← found, String.toList_ofList, String.toList_ofList]
    refine ⟨decimal.not_mem (by decide), fun member => ?_⟩
    have inPart := shortName_subset _ member
    rw [firstPart, String.toList_ofList] at inPart
    exact absurd (List.mem_takeWhile_imp inPart) (by decide)

/-- The address of a remote with a scheme and a port is read with the port as the owner and the first part of
the owner as the name. It gives no repository, or the one that the address names, exactly if that part is
empty or is `.git`, or if owner and name are both spelt like the port; and under the same condition no
documents, or those of the named repository, are looked up for a branch that is followed on the remote. -/
theorem remoteUrl_port_iff (owner name ends : String)
    (known : begins ∈ ["ssh://git@", "https://", "http://"]) (decimal : IsDecimal port) :
    let url := begins ++ "github.com:" ++ port ++ "/" ++ owner ++ "/" ++ name ++ ends
    let sound := firstPart owner = "" ∨ firstPart owner = ".git" ∨ owner = port ∧ name = port
    ofRemoteUrl? url = under? port.toList (firstPart owner).toList ∧
    ((ofRemoteUrl? url = none ∨ ofRemoteUrl? url = some ⟨owner, name⟩) ↔ sound) ∧
    ∀ (environment : Environment) (git : Behaviour) (earlier : List Call) (remote branch : String),
      '/' ∉ remote.toList →
      git earlier .trackedBranch = .ok (some (remote ++ "/" ++ branch)) →
      git (earlier ++ [.trackedBranch]) (.remoteUrl remote) = .ok url →
      ∃ base, ((resolveBaseUrl environment).run git earlier).1 = .ok base ∧
        ((base = none ∨ base = some (treeUrl ⟨owner, name⟩ branch)) ↔ sound) := by
  intro url sound
  have read : ofRemoteUrl? url = under? port.toList (firstPart owner).toList := by
    -- The colon behind the host divides it from the port, which is read like an owner.
    obtain ⟨marks, listed, rfl⟩ :
        ∃ marks : List String, marks.Sublist schemes ∧ begins = String.join marks := by
      simp only [List.mem_cons, List.not_mem_nil, or_false] at known
      rcases known with rfl | rfl | rfl
      · exact ⟨["ssh://", "git@"], by decide, by decide⟩
      · exact ⟨["https://"], by decide, by decide⟩
      · exact ⟨["http://"], by decide, by decide⟩
    have sameText :
        url = String.join marks ++ host ++ ":" ++ port ++ "/" ++ owner ++ "/" ++ name ++ ends := by
      have divided : "github.com:" = host ++ ":" := by decide
      simp only [url, divided, String.append_assoc]
    rw [sameText, ofRemoteUrl?_port listed decimal]
  refine ⟨read, ?_, ?_⟩
  · rw [read]
    exact under?_port_iff decimal owner name
  · intro environment git earlier remote branch noSlash followed lives
    refine ⟨_, run_resolveBaseUrl noSlash followed lives, ?_⟩
    refine Iff.trans ?_ (under?_port_iff decimal owner name)
    rw [read]
    cases found : under? port.toList (firstPart owner).toList with
    | none => simp
    | some repository =>
        obtain ⟨ownerNoSlash, nameNoSlash⟩ := noSlash_of_under?_port decimal found
        simp only [Option.map_some, reduceCtorEq, false_or, Option.some.injEq]
        exact treeUrl_eq_iff ownerNoSlash nameNoSlash branch

def followingMain (url : String) : Behaviour := fun _ call =>
  match call with
  | .currentBranch => .ok "main"
  | .trackedBranch => .ok (some "origin/main")
  | .remoteUrl _ => .ok url
  | .fetch _ _ => .ok ()
  | .changedFiles _ _ => .ok []

/-- A repository whose owner is spelt like the port, and one of another owner. -/
theorem remoteUrl_port_iff_of_number :
    let url := "https://github.com:443/user/repo"
    IsDecimal "443" ∧
      (ofRemoteUrl? "https://github.com:443/443/443.git/" = none ∨
        ofRemoteUrl? "https://github.com:443/443/443.git/" = some ⟨"443", "443"⟩) ∧
      ¬ (ofRemoteUrl? url = none ∨ ofRemoteUrl? url = some ⟨"user", "repo"⟩) ∧
      ∃ base, ((resolveBaseUrl .empty).run (followingMain url) []).1 = .ok base ∧
        ¬ (base = none ∨ base = some (treeUrl ⟨"user", "repo"⟩ "main")) := by
  intro url
  have decimal : IsDecimal "443" := ⟨by decide, List.all_eq_true.mp (by decide)⟩
  have known : "https://" ∈ ["ssh://git@", "https://", "http://"] := by decide
  obtain ⟨-, number, -⟩ := remoteUrl_port_iff "443" "443" ".git/" known decimal
  obtain ⟨-, other, documents⟩ := remoteUrl_port_iff "user" "repo" "" known decimal
  obtain ⟨base, found, sound⟩ :=
    documents .empty (followingMain url) [] "origin" "main" (by decide) rfl rfl
  have unsound : ¬ (firstPart "user" = "" ∨ firstPart "user" = ".git" ∨
      "user" = "443" ∧ "repo" = "443") := by
    decide
  exact ⟨decimal, number.mpr (Or.inr (Or.inr ⟨rfl, rfl⟩)), fun read => unsound (other.mp read),
    base, found, fun read => unsound (sound.mp read)⟩

/-- With a port, documents of another repository are looked up. -/
theorem remoteUrl_port_read_as_owner :
    let url := "ssh://git@github.com:22/user/repo.git"
    ofRemoteUrl? url = some ⟨"22", "user"⟩ ∧
      ¬ (ofRemoteUrl? url = none ∨ ofRemoteUrl? url = some ⟨"user", "repo"⟩) ∧
      ((resolveBaseUrl .empty).run (followingMain url) []).1 =
        .ok (some "https://github.com/22/user/tree/main/") ∧
      ofRemoteUrl? "https://github.com:443/user/repo" = some ⟨"443", "user"⟩ ∧
      ofRemoteUrl? "http://github.com:80/user/repo/" = some ⟨"80", "user"⟩ := by
  decide +kernel

end Repository

end LinkGate
