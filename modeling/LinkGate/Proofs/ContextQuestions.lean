import LinkGate.Context
import LinkGate.Proofs.AnchorAddress
import LinkGate.Proofs.DialogueRuns

/-!
# The questions that build a context

What is asked of `git` before a run, and in which order. First comes the branch, then the branch that is
followed and perhaps where its remote is; a run over changed documents then asks where the target branch is,
fetches it and lists the changes. Nothing is asked behind a question that is not answered.
-/

namespace LinkGate

open Git

/-! ## Branches -/

/-- Whether a branch that is followed is on a remote: its name is that of the remote, a slash and more. -/
def IsOnRemote (tracked : Option String) (remote : String) : Prop :=
  '/' ∉ remote.toList ∧ ∃ branch, tracked = some (remote ++ "/" ++ branch)

/-- The name of the remote is what stands in front of the first slash. -/
theorem isOnRemote_iff {tracked : Option String} {remote : String} :
    IsOnRemote tracked remote ↔ ∃ branch, tracked.bind splitTracked? = some (remote, branch) := by
  constructor
  · rintro ⟨noSlash, branch, rfl⟩
    exact ⟨branch, splitTracked?_append noSlash branch⟩
  · rintro ⟨branch, cut⟩
    obtain ⟨name, rfl, parts⟩ := Option.bind_eq_some_iff.mp cut
    obtain ⟨noSlash, rfl⟩ := of_splitTracked?_eq_some parts
    exact ⟨noSlash, branch, rfl⟩

theorem not_isOnRemote {tracked : Option String} (uncut : tracked.bind splitTracked? = none)
    (remote : String) : ¬ IsOnRemote tracked remote := by
  intro onRemote
  obtain ⟨branch, cut⟩ := isOnRemote_iff.mp onRemote
  rw [uncut] at cut
  contradiction

theorem IsOnRemote.unique {tracked : Option String} {first second : String}
    (one : IsOnRemote tracked first) (other : IsOnRemote tracked second) : first = second := by
  obtain ⟨branch, cut⟩ := isOnRemote_iff.mp one
  obtain ⟨otherBranch, otherCut⟩ := isOnRemote_iff.mp other
  rw [cut] at otherCut
  exact congrArg Prod.fst (Option.some.inj otherCut)

namespace Context

/-! ## The order of questions -/

/-- Whether only changed documents are checked: not all are wanted, and the branch that is checked out is
neither the main branch nor a release branch. -/
def ComparesChanges (config : Config) (git : Behaviour) : Prop :=
  config.checkAll = false ∧ ∃ branch, git [] .currentBranch = .ok branch ∧ branch ≠ "main" ∧
    ¬ "release/".toList <:+: branch.toList

def fetched (config : Config) (environment : Environment) : String :=
  "+" ++ (config.targetRef.or environment.baseRef).getD "main" ++ ":_doclinks_target_ref"

/-- The questions after whose answers the address of rendered documents is known, or known to be missing. -/
inductive BaseKnown (git : Behaviour) : List Call → Prop where
  | noRemote {tracked : Option String} (followed : git [.currentBranch] .trackedBranch = .ok tracked)
      (nowhere : ∀ remote, ¬ IsOnRemote tracked remote) :
      BaseKnown git [.currentBranch, .trackedBranch]
  | remote {tracked : Option String} {remote : String}
      (followed : git [.currentBranch] .trackedBranch = .ok tracked)
      (onRemote : IsOnRemote tracked remote) :
      BaseKnown git [.currentBranch, .trackedBranch, .remoteUrl remote]

/-- Which question comes after others that were all answered. -/
inductive Asks (config : Config) (environment : Environment) (git : Behaviour) :
    List Call → Call → Prop where
  | currentBranch : Asks config environment git [] .currentBranch
  | trackedBranch : Asks config environment git [.currentBranch] .trackedBranch
  | remoteUrl {tracked : Option String} {remote : String}
      (followed : git [.currentBranch] .trackedBranch = .ok tracked)
      (onRemote : IsOnRemote tracked remote) :
      Asks config environment git [.currentBranch, .trackedBranch] (.remoteUrl remote)
  /-- Without a repository by name, the branch that is followed is asked for once more. -/
  | targetBranch {base : List Call} (known : BaseKnown git base) (compares : ComparesChanges config git)
      (unnamed : config.targetRepository = none ∧ environment.repository = none) :
      Asks config environment git base .trackedBranch
  | targetUrl {base : List Call} {tracked : Option String} {remote : String}
      (known : BaseKnown git base) (compares : ComparesChanges config git)
      (unnamed : config.targetRepository = none ∧ environment.repository = none)
      (followed : git base .trackedBranch = .ok tracked) (onRemote : IsOnRemote tracked remote) :
      Asks config environment git (base ++ [.trackedBranch]) (.remoteUrl remote)
  | fetchNamed {base : List Call} {repository url : String} (known : BaseKnown git base)
      (compares : ComparesChanges config git)
      (named : config.targetRepository.or environment.repository = some repository)
      (lives : url = Repository.cloneUrl repository) :
      Asks config environment git base (.fetch url (fetched config environment))
  | fetchFollowed {base : List Call} {tracked : Option String} {remote url : String}
      (known : BaseKnown git base) (compares : ComparesChanges config git)
      (unnamed : config.targetRepository = none ∧ environment.repository = none)
      (followed : git base .trackedBranch = .ok tracked) (onRemote : IsOnRemote tracked remote)
      (lives : git (base ++ [.trackedBranch]) (.remoteUrl remote) = .ok url) :
      Asks config environment git (base ++ [.trackedBranch, .remoteUrl remote])
        (.fetch url (fetched config environment))
  | changedFiles {asked : List Call} {url : String}
      (fetches : Asks config environment git asked (.fetch url (fetched config environment))) :
      Asks config environment git (asked ++ [.fetch url (fetched config environment)])
        (.changedFiles "_doclinks_target_ref" "HEAD")

/-- Where the questions lead if all of them are answered. -/
inductive Ends {α : Type} (config : Config) (environment : Environment) (git : Behaviour) :
    List Call → Except RunError α → Prop where
  | whole {base : List Call} {value : α} (known : BaseKnown git base)
      (all : ¬ ComparesChanges config git) : Ends config environment git base (.ok value)
  | changed {asked : List Call} {url : String} {value : α} (compares : ComparesChanges config git)
      (fetches : Asks config environment git asked (.fetch url (fetched config environment))) :
      Ends config environment git
        (asked ++ [.fetch url (fetched config environment),
          .changedFiles "_doclinks_target_ref" "HEAD"]) (.ok value)
  | nowhere {base : List Call} {tracked : Option String} (known : BaseKnown git base)
      (compares : ComparesChanges config git)
      (unnamed : config.targetRepository = none ∧ environment.repository = none)
      (followed : git base .trackedBranch = .ok tracked)
      (noRemote : ∀ remote, ¬ IsOnRemote tracked remote) :
      Ends config environment git (base ++ [.trackedBranch]) (.error .noTargetRepository)

variable {config : Config} {environment : Environment} {git : Behaviour} {files : Files}
  {base before calls : List Call} {branch : String}

theorem BaseKnown.unique {first second : List Call} (one : BaseKnown git first)
    (other : BaseKnown git second) : first = second := by
  cases one with
  | noRemote followed nowhere =>
      cases other with
      | noRemote => rfl
      | remote otherFollowed onRemote =>
          rw [followed, Except.ok.injEq] at otherFollowed
          rw [otherFollowed] at nowhere
          exact absurd onRemote (nowhere _)
  | remote followed onRemote =>
      cases other with
      | noRemote otherFollowed nowhere =>
          rw [followed, Except.ok.injEq] at otherFollowed
          rw [← otherFollowed] at nowhere
          exact absurd onRemote (nowhere _)
      | remote otherFollowed otherRemote =>
          rw [followed, Except.ok.injEq] at otherFollowed
          rw [← otherFollowed] at otherRemote
          rw [onRemote.unique otherRemote]

theorem BaseKnown.ne_fetch (known : BaseKnown git base) {url refspec : String} :
    .fetch url refspec ∉ base := by
  cases known <;> simp

theorem Asks.ne_fetch {url refspec : String}
    (fetches : Asks config environment git before (.fetch url refspec)) {other spec : String} :
    .fetch other spec ∉ before := by
  cases fetches with
  | fetchNamed known => exact known.ne_fetch
  | fetchFollowed known =>
      intro member
      rcases List.mem_append.mp member with member | member
      · exact known.ne_fetch member
      · simp at member

/-- The end of the questions does not depend on the value that they lead to. -/
theorem Ends.map {α β : Type} {result : Except RunError α}
    (ended : Ends config environment git calls result) (f : α → β) :
    Ends config environment git calls (result.map f) := by
  cases ended with
  | whole known all => exact .whole known all
  | changed compares fetches => exact .changed compares fetches
  | nowhere known compares unnamed followed noRemote =>
      exact .nowhere known compares unnamed followed noRemote

/-- The only error that is not that of a question is that there is nothing to compare with. -/
theorem Ends.error_eq {α : Type} {result : Except RunError α} {e : RunError}
    (ended : Ends config environment git calls result) (failed : result = .error e) :
    e = .noTargetRepository := by
  cases ended with
  | whole => cases failed
  | changed => cases failed
  | nowhere => exact (Except.error.inj failed).symm

/-! ## Every function asks in this order -/

/-- A branch on which documents are compared is one on which not all are checked. -/
theorem comparesChanges_iff (current : git [] .currentBranch = .ok branch) :
    ComparesChanges config git ↔ (config.checkAll || Scope.isFullBranch branch) = false := by
  rw [ComparesChanges, Bool.or_eq_false_iff, Scope.isFullBranch, Bool.or_eq_false_iff, beq_eq_false_iff_ne,
    ← Bool.not_eq_true (Text.occursIn _ _), Text.occursIn_iff, current]
  simp

/-- What is fetched has the name that the branch to compare with is given. -/
theorem fetched_eq (config : Config) (environment : Environment) :
    "+" ++ Scope.targetRef config environment ++ ":" ++ Scope.localTargetRef =
      fetched config environment := by
  have name : ":" ++ Scope.localTargetRef = ":_doclinks_target_ref" := by decide
  rw [fetched, ← name, String.append_assoc, String.append_assoc, String.append_assoc]
  rfl

/-- The address of rendered documents takes one question or two. -/
theorem resolveBaseUrl_follows :
    Dialogue.Follows git (Asks config environment git)
      (fun asked result => BaseKnown git asked ∧ ∃ value, result = .ok value)
      [.currentBranch] (resolveBaseUrl environment) := by
  refine .question .trackedBranch ?_
  intro tracked followed
  cases cut : tracked.bind splitTracked? with
  | none =>
      have nowhere := not_isOnRemote cut
      cases tracked with
      | none => exact .done ⟨.noRemote followed nowhere, _, rfl⟩
      | some name =>
          rw [Option.bind_some] at cut
          simp only [cut]
          exact .done ⟨.noRemote followed nowhere, _, rfl⟩
  | some parts =>
      obtain ⟨remote, branch⟩ := parts
      have onRemote : IsOnRemote tracked remote := isOnRemote_iff.mpr ⟨branch, cut⟩
      obtain ⟨name, rfl, found⟩ := Option.bind_eq_some_iff.mp cut
      simp only [found]
      refine .question (.remoteUrl followed onRemote) ?_
      intro url _
      exact .done ⟨.remote followed onRemote, _, rfl⟩

/-- The address to fetch from takes no question if a repository is named, and else one or two. -/
theorem targetUrl_follows (known : BaseKnown git base) (compares : ComparesChanges config git) :
    Dialogue.Follows git (Asks config environment git)
      (fun asked result =>
        (∃ url, result = .ok url ∧
          Asks config environment git asked (.fetch url (fetched config environment))) ∨
        result = .error .noTargetRepository ∧
          Ends (α := Scope) config environment git asked (.error .noTargetRepository))
      base (Scope.targetUrl config environment) := by
  unfold Scope.targetUrl
  cases named : config.targetRepository.or environment.repository with
  | some repository =>
      have fetches : Asks config environment git base
          (.fetch (Repository.cloneUrl repository) (fetched config environment)) :=
        .fetchNamed known compares named rfl
      exact .done (Or.inl ⟨_, rfl, fetches⟩)
  | none =>
      have unnamed := Option.or_eq_none_iff.mp named
      refine .question (.targetBranch known compares unnamed) ?_
      intro tracked followed
      cases cut : tracked.bind splitTracked? with
      | none =>
          exact .done (Or.inr ⟨rfl, .nowhere known compares unnamed followed (not_isOnRemote cut)⟩)
      | some parts =>
          obtain ⟨remote, branch⟩ := parts
          have onRemote : IsOnRemote tracked remote := isOnRemote_iff.mpr ⟨branch, cut⟩
          refine .lastQuestion (Asks.targetUrl known compares unnamed followed onRemote) ?_
          intro url lives
          have asked : base ++ [Call.trackedBranch] ++ [.remoteUrl remote] =
              base ++ [.trackedBranch, .remoteUrl remote] := List.append_assoc _ _ _
          rw [asked]
          exact Or.inl ⟨url, rfl, .fetchFollowed known compares unnamed followed onRemote lives⟩

theorem select_follows {documents : List Document} (known : BaseKnown git base)
    (current : git [] .currentBranch = .ok branch) :
    Dialogue.Follows git (Asks config environment git) (Ends config environment git) base
      (Scope.select config environment branch documents) := by
  unfold Scope.select
  cases all : config.checkAll || Scope.isFullBranch branch with
  | true =>
      refine .done (.whole known ?_)
      rw [comparesChanges_iff current, all]
      exact Bool.noConfusion
  | false =>
      have compares := (comparesChanges_iff current).mpr all
      refine (targetUrl_follows known compares).bind ?_ ?_
      · rintro asked url (⟨found, same, fetches⟩ | ⟨impossible, -⟩)
        · obtain rfl := Except.ok.inj same
          rw [fetched_eq]
          refine .question fetches ?_
          intro _ _
          refine .question (.changedFiles fetches) ?_
          intro changed _
          rw [List.append_assoc]
          exact .forM_warning _ _ (.done (.changed compares fetches))
        · contradiction
      · rintro asked e (⟨_, impossible, -⟩ | ⟨same, ended⟩)
        · contradiction
        · obtain rfl := Except.error.inj same
          exact ended

theorem build_follows {documents : List Document} (listed : Context.documents config files = .ok documents) :
    Dialogue.Follows git (Asks config environment git) (Ends config environment git) []
      (build config files environment) := by
  unfold build
  rw [listed]
  refine .question .currentBranch ?_
  intro branch current
  refine resolveBaseUrl_follows.bind ?_ ?_
  · rintro base baseUrl ⟨known, -⟩
    let context (scope : Scope) : Context := ⟨config.root, branch, baseUrl, scope⟩
    refine (select_follows known current).bind ?_ ?_
    · exact fun asked scope ended => .done (ended.map context)
    · exact fun asked e ended => ended.map context
  · rintro asked e ⟨-, value, impossible⟩
    contradiction

/-! ## The whole conversation -/

/-- Where there is nothing to compare with, no repository is named and no remote is followed. -/
theorem ends_nowhere_iff {result : Except RunError Context}
    (ended : Ends config environment git calls result) :
    result = .error .noTargetRepository ↔
      ComparesChanges config git ∧ config.targetRepository = none ∧ environment.repository = none ∧
        ∃ base tracked, BaseKnown git base ∧ git base .trackedBranch = .ok tracked ∧
          ∀ remote, ¬ IsOnRemote tracked remote := by
  constructor
  · rintro rfl
    cases ended with
    | @nowhere base tracked known compares unnamed followed noRemote =>
        exact ⟨compares, unnamed.1, unnamed.2, base, tracked, known, followed, noRemote⟩
  · rintro ⟨compares, noTarget, noRepository, base, tracked, known, followed, noRemote⟩
    cases ended with
    | whole _ all => exact absurd compares all
    | nowhere => rfl
    | changed _ fetches =>
        -- A fetch comes from a name, of which there is none, or from a remote that is followed.
        cases fetches with
        | fetchNamed _ _ named =>
            rw [noTarget, noRepository] at named
            contradiction
        | fetchFollowed otherKnown _ _ otherFollowed onRemote =>
            obtain rfl := known.unique otherKnown
            rw [followed, Except.ok.injEq] at otherFollowed
            rw [otherFollowed] at noRemote
            exact absurd onRemote (noRemote _)

/-- Without a list of documents nothing is asked. Else each question comes after those that its order wants
in front of it, all of them answered: something is fetched at most once, and a question that is not answered
is the last one and gives the error. If all are answered, either all documents are checked and nothing is asked
behind the address of rendered documents, or changes are asked for at the end, or there is nothing to compare
with; and this last is the error exactly if changes are wanted, no repository is named and no remote is
followed. -/
theorem build_asks_in_order (config : Config) (files : Files) (environment : Environment)
    (git : Behaviour) :
    let result := ((build config files environment).run git []).1
    let calls := ((build config files environment).run git []).2
    (∀ e, Context.documents config files = .error e → result = .error e ∧ calls = []) ∧
    ∀ documents, Context.documents config files = .ok documents →
      (∀ before call after, calls = before ++ call :: after →
        Asks config environment git before call) ∧
      (∀ before url refspec after, calls = before ++ .fetch url refspec :: after →
        ∀ other spec, .fetch other spec ∉ before) ∧
      (∀ before call after failure, calls = before ++ call :: after →
        git before call = .error failure →
          after = [] ∧ result = .error (.gitFailed failure.command failure.message)) ∧
      (Answered git calls → Ends config environment git calls result) ∧
      (∀ e, result = .error e → e = .noTargetRepository ∨
        ∃ failure, FailsAtLast git calls failure ∧
          e = .gitFailed failure.command failure.message) ∧
      (result = .error .noTargetRepository ↔
        Answered git calls ∧ ComparesChanges config git ∧ config.targetRepository = none ∧
          environment.repository = none ∧
            ∃ base tracked, BaseKnown git base ∧ git base .trackedBranch = .ok tracked ∧
              ∀ remote, ¬ IsOnRemote tracked remote) := by
  intro result calls
  constructor
  · intro e unlisted
    have silent : build config files environment = .done (.error e) := by
      unfold build
      rw [unlisted]
      rfl
    simp only [result, calls, silent, Dialogue.run_done, and_self]
  · intro documents listed
    have follows : Dialogue.Follows git (Asks config environment git) (Ends config environment git) []
        (build config files environment) := build_follows listed
    -- What is left are questions about a row that is answered, or fails at its last question.
    obtain ⟨ruled, ending⟩ := follows.run .nil (by simp)
    change (∀ before call after, calls = _ → _) at ruled
    change (Answered git calls ∧ Ends config environment git calls result) ∨
      ∃ failure, FailsAtLast git calls failure ∧ result = _ at ending
    refine ⟨ruled, ?_, ?_, ?_, ?_, ?_⟩
    · exact fun before url refspec after written other spec => (ruled _ _ _ written).ne_fetch
    · intro before call after failure written unanswered
      rcases ending with ⟨answered, -⟩ | ⟨last, fails, same⟩
      · obtain ⟨answer, given⟩ := answered before call after written
        rw [given] at unanswered
        contradiction
      · obtain ⟨nothing, rfl⟩ := fails.last written unanswered
        exact ⟨nothing, same⟩
    · intro answered
      rcases ending with ⟨-, ended⟩ | ⟨failure, fails, -⟩
      · exact ended
      · exact absurd answered fails.not_answered
    · intro e failed
      rcases ending with ⟨-, ended⟩ | ⟨failure, fails, same⟩
      · exact Or.inl (ended.error_eq failed)
      · exact Or.inr ⟨failure, fails, Except.error.inj (failed.symm.trans same)⟩
    · rcases ending with ⟨answered, ended⟩ | ⟨failure, fails, same⟩
      · rw [ends_nowhere_iff ended, and_iff_right answered]
      · constructor
        · intro nowhere
          rw [same] at nowhere
          exact RunError.noConfusion (Except.error.inj nowhere)
        · exact fun known => absurd known.1 fails.not_answered

/-- A branch that is followed, which is asked for twice, and a fetch that fails. -/
theorem build_asks_until_fetch_fails :
    let git : Behaviour := fun _ call =>
      match call with
      | .currentBranch => .ok "topic"
      | .trackedBranch => .ok (some "origin/topic")
      | .remoteUrl _ => .ok "git@github.com:o/r.git"
      | .fetch _ _ => .error ⟨"fetch", "no route"⟩
      | .changedFiles _ _ => .ok []
    let files : Files := ⟨fun _ => .error .notFound, fun _ => false⟩
    let config := Config.standard ⟨"."⟩
    let asked : List Call :=
      [.currentBranch, .trackedBranch, .remoteUrl "origin", .trackedBranch, .remoteUrl "origin"]
    let fetch : Call := .fetch "git@github.com:o/r.git" "+main:_doclinks_target_ref"
    let run := (build config files .empty).run git []
    Context.documents config files = .ok Document.standard ∧ run.2 = asked ++ [fetch] ∧
      Asks config .empty git asked fetch ∧ run.1 = .error (.gitFailed "fetch" "no route") := by
  intro git files config asked fetch run
  have listed : Context.documents config files = .ok Document.standard := rfl
  have calls : run.2 = asked ++ [fetch] := by decide +kernel
  obtain ⟨-, whole⟩ := build_asks_in_order config files .empty git
  obtain ⟨ruled, -, stops, -⟩ := whole _ listed
  obtain ⟨-, failed⟩ := stops asked fetch [] ⟨"fetch", "no route"⟩ calls rfl
  exact ⟨listed, calls, ruled asked fetch [] calls, failed⟩

end Context

end LinkGate
