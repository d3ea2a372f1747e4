import LinkGate.Scope

/-!
# Courses of conversations

A conversation that goes on with the value of another one asks the questions of that one first, and gives
its warnings first. It leads to a value only if both do. `Follows` says of a conversation that it gives up at
the first question that is not answered, which questions it may ask after others, and where it may lead if
all are answered.
-/

namespace LinkGate.Git.Dialogue

variable {α β : Type} {git : Behaviour}

theorem run_done (result : Except RunError α) (earlier : List Call) :
    (done result).run git earlier = (result, earlier) :=
  rfl

/-- A conversation goes on where the other one ended, unless that one ended with an error. -/
theorem run_bind (first : Dialogue α) (next : α → Dialogue β) (earlier : List Call) :
    (first >>= next).run git earlier =
      match first.run git earlier with
      | (.error e, asked) => (.error e, asked)
      | (.ok value, asked) => (next value).run git asked := by
  change (first.bind next).run git earlier = _
  induction first generalizing earlier with
  | done result => cases result <;> rfl
  | ask call following ih => exact ih (git earlier call) (earlier ++ [call])
  | warn text following ih => exact ih earlier

/-- The warnings of a conversation that goes on stand behind those of the other one. -/
theorem warnings_bind (first : Dialogue α) (next : α → Dialogue β) (earlier : List Call) :
    (first >>= next).warnings git earlier =
      first.warnings git earlier ++
        match first.run git earlier with
        | (.error _, _) => []
        | (.ok value, asked) => (next value).warnings git asked := by
  change (first.bind next).warnings git earlier = _
  induction first generalizing earlier with
  | done result => cases result <;> rfl
  | ask call following ih => exact ih (git earlier call) (earlier ++ [call])
  | warn text following ih => exact congrArg (List.cons text) (ih earlier)

theorem run_bind_ok {first : Dialogue α} {next : α → Dialogue β} {earlier calls : List Call} {value : β}
    (ended : (first >>= next).run git earlier = (.ok value, calls)) :
    ∃ intermediate asked, first.run git earlier = (.ok intermediate, asked) ∧
      (next intermediate).run git asked = (.ok value, calls) := by
  rw [run_bind] at ended
  split at ended
  · simp at ended
  · next intermediate asked begun => exact ⟨intermediate, asked, begun, ended⟩

theorem run_question (call : Call) (earlier : List Call) :
    (question call).run git earlier =
      match git earlier call with
      | .ok answer => (.ok answer, earlier ++ [call])
      | .error failure =>
        (.error (.gitFailed failure.command failure.message), earlier ++ [call]) := by
  rw [question, run]
  cases git earlier call <;> rfl

theorem run_question_ok {call : Call} {earlier asked : List Call} {answer : call.Answer}
    (ended : (question call).run git earlier = (.ok answer, asked)) :
    git earlier call = .ok answer ∧ asked = earlier ++ [call] := by
  rw [run_question] at ended
  split at ended
  · next found answered =>
      rw [Prod.mk.injEq, Except.ok.injEq] at ended
      obtain ⟨rfl, rfl⟩ := ended
      exact ⟨answered, rfl⟩
  · simp at ended

section Answers

variable {call : Call} {earlier : List Call} {next : call.Answer → Dialogue α}

theorem run_question_bind_ok {answer : call.Answer} (answered : git earlier call = .ok answer) :
    (question call >>= next).run git earlier = (next answer).run git (earlier ++ [call]) := by
  rw [run_bind, run_question, answered]

theorem run_question_bind_error {failure : CommandFailure} (failed : git earlier call = .error failure) :
    (question call >>= next).run git earlier =
      (.error (.gitFailed failure.command failure.message), earlier ++ [call]) := by
  rw [run_bind, run_question, failed]

end Answers

@[simp] theorem warnings_question (call : Call) (earlier : List Call) :
    (question call).warnings git earlier = [] := by
  rw [question, warnings]
  cases git earlier call <;> rfl

/-- If a conversation begins without warnings, they are those of the rest. -/
theorem warnings_bind_of_silent {told : Except RunError β → List String}
    (quiet : ∀ e, told (.error e) = []) {first : Dialogue α} {next : α → Dialogue β}
    (silent : ∀ earlier, first.warnings git earlier = [])
    (goesOn : ∀ value asked, (next value).warnings git asked = told ((next value).run git asked).1)
    (earlier : List Call) :
    (first >>= next).warnings git earlier = told ((first >>= next).run git earlier).1 := by
  rw [warnings_bind, silent, List.nil_append, run_bind]
  obtain ⟨result, asked⟩ := first.run git earlier
  cases result with
  | error e => exact (quiet e).symm
  | ok value => exact goesOn value asked

section Warnings

variable {ι : Type} (items : List ι) (text : ι → String) (rest : Dialogue α) (earlier : List Call)

theorem run_forM_warning :
    (items.forM (fun item => warning (text item)) >>= fun _ => rest).run git earlier =
      rest.run git earlier := by
  induction items with
  | nil => rfl
  | cons item others ih => exact ih

theorem warnings_forM_warning :
    (items.forM (fun item => warning (text item)) >>= fun _ => rest).warnings git earlier =
      items.map text ++ rest.warnings git earlier := by
  induction items with
  | nil => rfl
  | cons item others ih => exact congrArg (List.cons (text item)) ih

end Warnings

end LinkGate.Git.Dialogue

namespace LinkGate.Git

/-! ## Up to the first failure -/

/-- Questions that were all answered, each after those in front of it. -/
def Answered (git : Behaviour) (calls : List Call) : Prop :=
  ∀ before call after, calls = before ++ call :: after → ∃ answer, git before call = .ok answer

/-- Questions of which only the last one was not answered. -/
def FailsAtLast (git : Behaviour) (calls : List Call) (failure : CommandFailure) : Prop :=
  ∃ before call, calls = before ++ [call] ∧ Answered git before ∧ git before call = .error failure

variable {git : Behaviour} {calls : List Call} {call : Call} {failure : CommandFailure}

theorem last_or_earlier {before after : List Call} {last : Call}
    (written : calls ++ [last] = before ++ call :: after) :
    (before = calls ∧ call = last ∧ after = []) ∨ ∃ others, calls = before ++ call :: others := by
  rcases List.eq_nil_or_concat after with rfl | ⟨others, final, rfl⟩
  · obtain ⟨rfl, same⟩ := List.append_inj' written rfl
    exact Or.inl ⟨rfl, (List.head_eq_of_cons_eq same).symm, rfl⟩
  · rw [List.concat_eq_append, ← List.cons_append, ← List.append_assoc] at written
    exact Or.inr ⟨others, List.append_inj_left' written rfl⟩

theorem Answered.nil : Answered git [] := by
  intro before call after written
  simp at written

theorem Answered.concat (answered : Answered git calls) {answer : call.Answer}
    (last : git calls call = .ok answer) : Answered git (calls ++ [call]) := by
  intro before other after written
  rcases last_or_earlier written with ⟨rfl, rfl, -⟩ | ⟨others, earlier⟩
  · exact ⟨answer, last⟩
  · exact answered before other others earlier

theorem FailsAtLast.last {before after : List Call} (fails : FailsAtLast git calls failure)
    {other : CommandFailure} (written : calls = before ++ call :: after)
    (unanswered : git before call = .error other) : after = [] ∧ other = failure := by
  obtain ⟨earlier, final, rfl, answered, failed⟩ := fails
  rcases last_or_earlier written with ⟨rfl, rfl, rfl⟩ | ⟨others, rfl⟩
  · rw [failed] at unanswered
    exact ⟨rfl, (Except.error.inj unanswered).symm⟩
  · obtain ⟨answer, given⟩ := answered before call others rfl
    rw [given] at unanswered
    contradiction

theorem FailsAtLast.not_answered (fails : FailsAtLast git calls failure) : ¬ Answered git calls := by
  intro answered
  obtain ⟨before, call, rfl, -, failed⟩ := fails
  obtain ⟨answer, given⟩ := answered before call [] rfl
  rw [given] at failed
  contradiction

namespace Dialogue

variable {α β : Type} {asked : List Call} {rule : List Call → Call → Prop}
  {expected : List Call → Except RunError α → Prop} {wanted : List Call → Except RunError β → Prop}

/-- A conversation, after some questions, that asks only what a rule allows after the questions in front of
it, ends at once with the error of a question that is not answered, and else leads to what is expected after
all of them. -/
inductive Follows (git : Behaviour) (rule : List Call → Call → Prop)
    (expected : List Call → Except RunError α → Prop) : List Call → Dialogue α → Prop where
  | done {asked : List Call} {result : Except RunError α} (led : expected asked result) :
      Follows git rule expected asked (.done result)
  | ask {asked : List Call} {call : Call} {next : Except CommandFailure call.Answer → Dialogue α}
      (allowed : rule asked call)
      (stops : ∀ failure, next (.error failure) =
        .done (.error (.gitFailed failure.command failure.message)))
      (goesOn : ∀ answer, git asked call = .ok answer →
        Follows git rule expected (asked ++ [call]) (next (.ok answer))) :
      Follows git rule expected asked (.ask call next)
  | warn {asked : List Call} {text : String} {next : Dialogue α}
      (goesOn : Follows git rule expected asked next) :
      Follows git rule expected asked (.warn text next)

/-- A conversation may end with a question. -/
theorem Follows.lastQuestion {expected : List Call → Except RunError call.Answer → Prop}
    (allowed : rule asked call)
    (led : ∀ answer, git asked call = .ok answer → expected (asked ++ [call]) (.ok answer)) :
    Follows git rule expected asked (Dialogue.question call) :=
  .ask allowed (fun _ => rfl) fun answer answered => .done (led answer answered)

theorem Follows.question {next : call.Answer → Dialogue α} (allowed : rule asked call)
    (goesOn : ∀ answer, git asked call = .ok answer →
      Follows git rule expected (asked ++ [call]) (next answer)) :
    Follows git rule expected asked (Dialogue.question call >>= next) :=
  .ask allowed (fun _ => rfl) goesOn

theorem Follows.forM_warning {ι : Type} (items : List ι) (text : ι → String) {rest : Dialogue α}
    (goesOn : Follows git rule expected asked rest) :
    Follows git rule expected asked
      (items.forM (fun item => Dialogue.warning (text item)) >>= fun _ => rest) := by
  induction items with
  | nil => exact goesOn
  | cons item others ih => exact .warn ih

/-- A conversation that goes on with the value of another one follows the rule if both do. -/
theorem Follows.bind {first : Dialogue α} {next : α → Dialogue β}
    (begun : Follows git rule expected asked first)
    (goesOn : ∀ calls value, expected calls (.ok value) → Follows git rule wanted calls (next value))
    (ends : ∀ calls e, expected calls (.error e) → wanted calls (.error e)) :
    Follows git rule wanted asked (first >>= next) := by
  change Follows git rule wanted asked (first.bind next)
  induction begun with
  | @done asked result led =>
      cases result with
      | error e => exact .done (ends asked e led)
      | ok value => exact goesOn asked value led
  | ask allowed stops _ ih =>
      refine .ask allowed (fun failure => ?_) ih
      rw [stops failure]
      rfl
  | warn _ ih => exact .warn ih

/-- What a conversation that follows a rule has asked in the end, and where it leads. -/
theorem Follows.run {dialogue : Dialogue α} (follows : Follows git rule expected asked dialogue)
    (answered : Answered git asked)
    (ruled : ∀ before call after, asked = before ++ call :: after → rule before call) :
    (∀ before call after, (dialogue.run git asked).2 = before ++ call :: after → rule before call) ∧
      ((Answered git (dialogue.run git asked).2 ∧
          expected (dialogue.run git asked).2 (dialogue.run git asked).1) ∨
        ∃ failure, FailsAtLast git (dialogue.run git asked).2 failure ∧
          (dialogue.run git asked).1 = .error (.gitFailed failure.command failure.message)) := by
  induction follows with
  | done led => exact ⟨ruled, Or.inl ⟨answered, led⟩⟩
  | warn _ ih => exact ih answered ruled
  | @ask asked call next allowed stops _ ih =>
      have ruledNow : ∀ before other after, asked ++ [call] = before ++ other :: after →
          rule before other := by
        intro before other after written
        rcases last_or_earlier written with ⟨rfl, rfl, -⟩ | ⟨others, earlier⟩
        · exact allowed
        · exact ruled before other others earlier
      rw [Dialogue.run]
      cases given : git asked call with
      | error failure =>
          rw [stops failure]
          exact ⟨ruledNow, Or.inr ⟨failure, ⟨asked, call, rfl, answered, given⟩, rfl⟩⟩
      | ok answer => exact ih answer given (answered.concat given) ruledNow

end Dialogue

end LinkGate.Git

namespace LinkGate.Scope

open Git

variable {config : Config} {environment : Environment} {branch : String} {documents : List Document}
  {git : Behaviour} {earlier calls : List Call} {scope : Scope}

/-- A scope has all documents, if these are wanted or the branch calls for them, or those that are among
the changed files, which are asked for last. -/
theorem select_ok
    (selected : (select config environment branch documents).run git earlier = (.ok scope, calls)) :
    ((config.checkAll || isFullBranch branch) = true ∧ scope = whole documents) ∨
      (config.checkAll || isFullBranch branch) = false ∧
        ∃ asked changed, calls = asked ++ [.changedFiles localTargetRef "HEAD"] ∧
          git asked (.changedFiles localTargetRef "HEAD") = .ok changed ∧
          scope = ofChanges (targetRef config environment) changed documents := by
  unfold select at selected
  split at selected
  · next all =>
      obtain ⟨found, -⟩ := Prod.mk.inj selected
      exact Or.inl ⟨all, (Except.ok.inj found).symm⟩
  · next some =>
      obtain ⟨url, _, -, afterUrl⟩ := Dialogue.run_bind_ok selected
      obtain ⟨_, asked, -, afterFetch⟩ := Dialogue.run_bind_ok afterUrl
      obtain ⟨changed, _, answered, ended⟩ := Dialogue.run_bind_ok afterFetch
      obtain ⟨listed, rfl⟩ := Dialogue.run_question_ok answered
      obtain ⟨found, all⟩ := Prod.mk.inj ((Dialogue.run_forM_warning ..).symm.trans ended)
      exact Or.inr ⟨Bool.eq_false_iff.mpr some, asked, changed, all.symm, listed,
        (Except.ok.inj found).symm⟩

theorem warnings_targetUrl (earlier : List Call) :
    (targetUrl config environment).warnings git earlier = [] := by
  unfold targetUrl
  split
  · rfl
  · rw [Dialogue.warnings_bind, Dialogue.warnings_question, List.nil_append]
    split
    · rfl
    · split
      · exact Dialogue.warnings_question _ _
      · rfl

def skipWarnings : Except RunError Scope → List String
  | .error _ => []
  | .ok ⟨.full, _, _⟩ => []
  | .ok ⟨.changed ref, _, skipped⟩ => skipped.map (skipWarning ref)

theorem warnings_select (earlier : List Call) :
    (select config environment branch documents).warnings git earlier =
      skipWarnings ((select config environment branch documents).run git earlier).1 := by
  have quiet (e : RunError) : skipWarnings (.error e) = [] := rfl
  unfold select
  split
  · rfl
  · refine Dialogue.warnings_bind_of_silent quiet warnings_targetUrl (fun url => ?_) earlier
    refine Dialogue.warnings_bind_of_silent quiet (Dialogue.warnings_question _) (fun _ => ?_)
    refine Dialogue.warnings_bind_of_silent quiet (Dialogue.warnings_question _) (fun changed asked => ?_)
    rw [Dialogue.warnings_forM_warning, Dialogue.run_forM_warning]
    exact List.append_nil _

/-- The documents of a scope are those that are among the changed files, and the others are left out. -/
theorem mem_ofChanges {ref : String} {changed : List Path} {document : Document} :
    (document ∈ (ofChanges ref changed documents).documents ↔
      document ∈ documents ∧ ∃ file ∈ changed, file.identity = document.path.identity) ∧
    (document ∈ (ofChanges ref changed documents).skipped ↔
      document ∈ documents ∧ ¬ ∃ file ∈ changed, file.identity = document.path.identity) := by
  simp only [ofChanges, List.partition_eq_filter_filter, List.mem_filter, Function.comp_apply,
    List.contains_iff_mem, List.mem_map, Bool.not_eq_true', ← Bool.not_eq_true, and_self]

end LinkGate.Scope
