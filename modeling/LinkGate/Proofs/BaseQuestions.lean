import LinkGate.BaseUrl
import LinkGate.Proofs.DialogueRuns
import LinkGate.Proofs.TargetMeaning

/-!
# The questions about the address of rendered documents

Where rendered documents are is found out with one question, about the branch that is followed, and with a second
one, about its remote, if there is such a branch. The build server is heard only if no branch is followed.
`FindsBase` lists the courses that this can take, and every run is one of them.
-/

namespace LinkGate

open Git

/-! ## Branches that are followed -/

theorem of_splitTracked?_eq_some {tracked remote branch : String}
    (cut : splitTracked? tracked = some (remote, branch)) :
    '/' ∉ remote.toList ∧ tracked = remote ++ "/" ++ branch := by
  obtain ⟨⟨before, after⟩, parts, same⟩ := Option.map_eq_some_iff.mp cut
  obtain ⟨rfl, rfl⟩ := Prod.mk.inj same
  obtain ⟨first, written⟩ := Text.of_splitOnce?_eq_some parts
  refine ⟨by rwa [String.toList_ofList], String.toList_inj.mp ?_⟩
  simp [written]

theorem splitTracked?_of_not_mem {tracked : String} (noSlash : '/' ∉ tracked.toList) :
    splitTracked? tracked = none := by
  rw [splitTracked?, Text.splitOnce?_of_not_mem noSlash, Option.map_none]

theorem splitTracked?_append {remote : String} (noSlash : '/' ∉ remote.toList) (branch : String) :
    splitTracked? (remote ++ "/" ++ branch) = some (remote, branch) := by
  have written : (remote ++ "/" ++ branch).toList = remote.toList ++ '/' :: branch.toList := by simp
  rw [splitTracked?, written, Text.splitOnce?_append_cons noSlash]
  simp

/-! ## Courses -/

/-- How the address of rendered documents is found out: what is answered, where it leads and what has been asked. -/
inductive Environment.FindsBase (environment : Environment) (git : Behaviour) (earlier : List Call) :
    Except RunError (Option String) × List Call → Prop where
  /-- It is not known whether a branch is followed. -/
  | unanswered {failure : CommandFailure} (failed : git earlier .trackedBranch = .error failure) :
      FindsBase environment git earlier
        (.error (.gitFailed failure.command failure.message), earlier ++ [.trackedBranch])
  /-- No branch is followed. -/
  | built (notFollowed : git earlier .trackedBranch = .ok none) :
      FindsBase environment git earlier (.ok environment.baseUrl?, earlier ++ [.trackedBranch])
  /-- A branch is followed that is on no remote. -/
  | offRemote {tracked : String} (followed : git earlier .trackedBranch = .ok (some tracked))
      (noSlash : '/' ∉ tracked.toList) :
      FindsBase environment git earlier (.ok none, earlier ++ [.trackedBranch])
  /-- The address of the remote is not known. -/
  | unknown {remote branch : String} {failure : CommandFailure} (noSlash : '/' ∉ remote.toList)
      (followed : git earlier .trackedBranch = .ok (some (remote ++ "/" ++ branch)))
      (failed : git (earlier ++ [.trackedBranch]) (.remoteUrl remote) = .error failure) :
      FindsBase environment git earlier
        (.error (.gitFailed failure.command failure.message),
          earlier ++ [.trackedBranch, .remoteUrl remote])
  /-- The address of the remote names a repository or none. -/
  | onRemote {remote branch url : String} (noSlash : '/' ∉ remote.toList)
      (followed : git earlier .trackedBranch = .ok (some (remote ++ "/" ++ branch)))
      (lives : git (earlier ++ [.trackedBranch]) (.remoteUrl remote) = .ok url) :
      FindsBase environment git earlier
        (.ok ((Repository.ofRemoteUrl? url).map (·.treeUrl branch)),
          earlier ++ [.trackedBranch, .remoteUrl remote])

variable {environment : Environment} {git : Behaviour} {earlier : List Call}
  {outcome : Except RunError (Option String) × List Call}

theorem run_of_findsBase (finds : environment.FindsBase git earlier outcome) :
    (resolveBaseUrl environment).run git earlier = outcome := by
  unfold resolveBaseUrl
  cases finds with
  | unanswered failed => exact Dialogue.run_question_bind_error failed
  | built notFollowed => exact Dialogue.run_question_bind_ok notFollowed
  | offRemote followed noSlash =>
      refine (Dialogue.run_question_bind_ok followed).trans ?_
      simp only [splitTracked?_of_not_mem noSlash]
      rfl
  | unknown noSlash followed failed =>
      refine (Dialogue.run_question_bind_ok followed).trans ?_
      simp only [splitTracked?_append noSlash]
      refine (Dialogue.run_question_bind_error failed).trans ?_
      rw [List.append_assoc]
      rfl
  | onRemote noSlash followed lives =>
      refine (Dialogue.run_question_bind_ok followed).trans ?_
      simp only [splitTracked?_append noSlash]
      refine (Dialogue.run_question_bind_ok lives).trans ?_
      rw [List.append_assoc]
      rfl

theorem exists_findsBase (environment : Environment) (git : Behaviour) (earlier : List Call) :
    ∃ outcome, environment.FindsBase git earlier outcome := by
  cases followed : git earlier .trackedBranch with
  | error failure => exact ⟨_, .unanswered followed⟩
  | ok answer =>
      cases answer with
      | none => exact ⟨_, .built followed⟩
      | some tracked =>
          by_cases slash : '/' ∈ tracked.toList
          · obtain ⟨front, behind, written, noSlash⟩ := List.eq_append_cons_of_mem slash
            obtain rfl : tracked = String.ofList front ++ "/" ++ String.ofList behind := by
              apply String.toList_inj.mp
              simp [written]
            have first : '/' ∉ (String.ofList front).toList := by rwa [String.toList_ofList]
            cases lives : git (earlier ++ [.trackedBranch]) (.remoteUrl (String.ofList front)) with
            | error failure => exact ⟨_, .unknown first followed lives⟩
            | ok url => exact ⟨_, .onRemote first followed lives⟩
          · exact ⟨_, .offRemote followed slash⟩

/-- Every run is such a course. -/
theorem findsBase_run (environment : Environment) (git : Behaviour) (earlier : List Call) :
    environment.FindsBase git earlier ((resolveBaseUrl environment).run git earlier) := by
  obtain ⟨outcome, finds⟩ := exists_findsBase environment git earlier
  rwa [run_of_findsBase finds]

/-! ## What the courses have in common -/

/-- The build server makes no difference where a branch is followed. -/
theorem Environment.FindsBase.of_followed (finds : environment.FindsBase git earlier outcome) {tracked : String}
    (followed : git earlier .trackedBranch = .ok (some tracked)) (other : Environment) :
    other.FindsBase git earlier outcome := by
  cases finds with
  | unanswered failed =>
      rw [followed] at failed
      cases failed
  | built notFollowed =>
      rw [followed] at notFollowed
      cases notFollowed
  | offRemote same noSlash => exact .offRemote same noSlash
  | unknown noSlash same failed => exact .unknown noSlash same failed
  | onRemote noSlash same lives => exact .onRemote noSlash same lives

theorem Environment.FindsBase.of_error (finds : environment.FindsBase git earlier outcome) {e : RunError}
    (failed : outcome.1 = .error e) :
    ∃ failure : CommandFailure, e = .gitFailed failure.command failure.message ∧
      (git earlier .trackedBranch = .error failure ∨
        ∃ remote branch, '/' ∉ remote.toList ∧
          git earlier .trackedBranch = .ok (some (remote ++ "/" ++ branch)) ∧
          git (earlier ++ [.trackedBranch]) (.remoteUrl remote) = .error failure) := by
  cases finds with
  | unanswered unknown => exact ⟨_, (Except.error.inj failed).symm, Or.inl unknown⟩
  | built => cases failed
  | offRemote => cases failed
  | unknown noSlash followed unknown =>
      exact ⟨_, (Except.error.inj failed).symm, Or.inr ⟨_, _, noSlash, followed, unknown⟩⟩
  | onRemote => cases failed

end LinkGate
