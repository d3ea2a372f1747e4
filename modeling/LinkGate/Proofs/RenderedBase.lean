import LinkGate.Proofs.ShortName

/-!
# Where rendered documents are

An address of rendered documents always has the same shape, with an owner and a name that hold something and no
slash. The branch that is followed decides on it alone; the build server is heard only if none is followed.
-/

namespace LinkGate

open Git

namespace Repository

open Text

theorem isProper_of_ofPath? {path : List Char} {r : Repository} (found : ofPath? path = some r) :
    r.IsProper := by
  unfold ofPath? at found
  split at found
  · next owner name others parts =>
      have noSlash : ∀ part ∈ owner :: name :: others, '/' ∉ part := by
        intro part member
        rw [← parts] at member
        exact Path.not_mem_of_mem_splitOn member
      dsimp only at found
      split at found
      · contradiction
      · next filled =>
          obtain rfl := Option.some.inj found
          simp only [Bool.or_eq_true, List.isEmpty_iff, not_or] at filled
          refine ⟨?_, ?_, ?_, ?_⟩
          · simpa using filled.1
          · simpa using filled.2
          · rw [String.toList_ofList]
            exact noSlash owner List.mem_cons_self
          · rw [String.toList_ofList]
            intro member
            exact noSlash name (by simp) (shortName_subset name member)
  · contradiction

theorem isProper_of_ofRemoteUrl? {url : String} {r : Repository} (found : ofRemoteUrl? url = some r) :
    r.IsProper := by
  obtain ⟨path, -, read⟩ := Option.bind_eq_some_iff.mp found
  exact isProper_of_ofPath? read

end Repository

variable {environment : Environment} {git : Behaviour} {earlier : List Call}

/-- The build server gives an address if it tells the commit and a repository by its short name. -/
theorem exists_baseUrl?_iff :
    (∃ base, environment.baseUrl? = some base) ↔
      (∃ commit, environment.commit = some commit) ∧
        ∃ repository : Repository, repository.IsProper ∧
          ∃ front behind, environment.repository = some (repository.shortSpelling front behind) := by
  constructor
  · rintro ⟨base, found⟩
    obtain ⟨name, commit, repository, named, tested, hosted, -⟩ := baseUrl?_eq_some found
    obtain ⟨proper, front, behind, rfl⟩ := Repository.ofShortName?_eq_some_iff.mp hosted
    exact ⟨⟨commit, tested⟩, repository, proper, front, behind, named⟩
  · rintro ⟨⟨commit, tested⟩, repository, proper, front, behind, named⟩
    have hosted := Repository.ofShortName?_eq_some_iff.mpr ⟨proper, front, behind, rfl⟩
    refine ⟨repository.treeUrl commit, ?_⟩
    simp [Environment.baseUrl?, named, tested, hosted]

theorem Environment.RendersUnder.isProper {repository : Repository} {ref : String}
    (renders : environment.RendersUnder git earlier repository ref) : repository.IsProper := by
  cases renders with
  | tracked _ _ _ hosted => exact Repository.isProper_of_ofRemoteUrl? hosted
  | built _ _ _ hosted => exact (Repository.ofShortName?_eq_some_iff.mp hosted).1

/-- Asking for the address of rendered documents fails exactly if one of its questions does, and with the error of
this question: about the branch that is followed, or about the remote before the first slash of its name. The build
server makes no difference where a branch is followed, and no remote is asked for where none is. An address that is
found has an owner and a name, neither empty nor with a slash, and behind them what follows the first slash of the
branch or, without a branch, the commit that is built. Without a branch there is an address exactly if the commit is
known and the repository is named by two parts, neither empty, around a single slash. -/
theorem resolveBaseUrl_outcome (environment : Environment) (git : Behaviour) (earlier : List Call) :
    let run := (resolveBaseUrl environment).run git earlier
    (∀ e, run.1 = .error e ↔
      ∃ failure : CommandFailure, e = .gitFailed failure.command failure.message ∧
        (git earlier .trackedBranch = .error failure ∨
          ∃ remote branch, '/' ∉ remote.toList ∧
            git earlier .trackedBranch = .ok (some (remote ++ "/" ++ branch)) ∧
            git (earlier ++ [.trackedBranch]) (.remoteUrl remote) = .error failure)) ∧
    (∀ tracked, git earlier .trackedBranch = .ok (some tracked) →
      ∀ other, (resolveBaseUrl other).run git earlier = run) ∧
    (git earlier .trackedBranch = .ok none → run.2 = earlier ++ [.trackedBranch]) ∧
    (∀ base, run.1 = .ok (some base) → ∃ (repository : Repository) (ref : String),
      repository.IsProper ∧
      base = "https://github.com/" ++ repository.owner ++ "/" ++ repository.name ++ "/tree/" ++ ref ++ "/" ∧
      ((∃ remote, '/' ∉ remote.toList ∧
          git earlier .trackedBranch = .ok (some (remote ++ "/" ++ ref))) ∨
        git earlier .trackedBranch = .ok none ∧ environment.commit = some ref)) ∧
    (git earlier .trackedBranch = .ok none →
      ((∃ base, run.1 = .ok (some base)) ↔
        (∃ commit, environment.commit = some commit) ∧
          ∃ repository : Repository, repository.IsProper ∧
            ∃ front behind, environment.repository = some (repository.shortSpelling front behind))) := by
  intro run
  have finds : environment.FindsBase git earlier run := findsBase_run environment git earlier
  refine ⟨?_, ?_, ?_, ?_, ?_⟩
  · intro e
    constructor
    · exact finds.of_error
    · rintro ⟨failure, rfl, failed | ⟨remote, branch, noSlash, followed, failed⟩⟩
      · exact congrArg Prod.fst (run_of_findsBase (.unanswered failed))
      · exact congrArg Prod.fst (run_of_findsBase (.unknown noSlash followed failed))
  · intro tracked followed other
    exact run_of_findsBase (finds.of_followed followed other)
  · intro notFollowed
    exact congrArg Prod.snd (run_of_findsBase (.built notFollowed))
  · intro base found
    obtain ⟨repository, ref, renders, rfl⟩ := rendersUnder_of_resolveBaseUrl found
    refine ⟨repository, ref, renders.isProper, repository.treeUrl_eq ref, ?_⟩
    cases renders with
    | tracked noSlash followed => exact Or.inl ⟨_, noSlash, followed⟩
    | built notFollowed _ tested => exact Or.inr ⟨notFollowed, tested⟩
  · intro notFollowed
    have led : run.1 = .ok environment.baseUrl? := congrArg Prod.fst (run_of_findsBase (.built notFollowed))
    rw [led, ← exists_baseUrl?_iff]
    simp

/-- A build server that is heard because no branch is followed, and not heard over a branch that is followed on
another host. -/
theorem resolveBaseUrl_outcome_of_built_commit :
    let environment : Environment := ⟨some "//o/r.git/", some "abc", none⟩
    let git (tracked : Option String) : Behaviour := fun _ call =>
      match call with
      | .currentBranch => .ok "main"
      | .trackedBranch => .ok tracked
      | .remoteUrl _ => .ok "https://gitlab.com/o/r.git"
      | .fetch _ _ => .ok ()
      | .changedFiles _ _ => .ok []
    let built := (resolveBaseUrl environment).run (git none) []
    let elsewhere := (resolveBaseUrl environment).run (git (some "origin/main")) []
    built.2 = [.trackedBranch] ∧ (∃ base, built.1 = .ok (some base)) ∧
      (resolveBaseUrl .empty).run (git (some "origin/main")) [] = elsewhere ∧
      elsewhere = (.ok none, [.trackedBranch, .remoteUrl "origin"]) := by
  intro environment git built elsewhere
  obtain ⟨-, -, silent, -, found⟩ := resolveBaseUrl_outcome environment (git none) []
  obtain ⟨-, deaf, -⟩ := resolveBaseUrl_outcome environment (git (some "origin/main")) []
  have proper : (⟨"o", "r.git"⟩ : Repository).IsProper :=
    ⟨by decide, by decide, by decide, by decide⟩
  have named : environment.repository = some ((⟨"o", "r.git"⟩ : Repository).shortSpelling 2 1) := by
    decide
  exact ⟨silent rfl, (found rfl).mpr ⟨⟨"abc", rfl⟩, _, proper, 2, 1, named⟩,
    deaf "origin/main" rfl .empty, by decide +kernel⟩

end LinkGate
