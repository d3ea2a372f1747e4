import LinkGate.Proofs.CheckTimes
import Mathlib.Order.Bounds.Defs

/-!
# What a check does, turn by turn

A check that goes on sends a request, or waits before the next one, or ends. `Does` says which of these
happens when the clock goes on, and what comes of it; `History` is a row of such turns. The clock leaves no
choice, so that a history to the end is the only one, and every other one is its front. For an address that
is checked alone, the history is one request, a pause and a request for every answer that asks for another
one, and the outcome.
-/

namespace LinkGate

namespace RetryPolicy

theorem asksAgain_eq_true_iff {policy : RetryPolicy} {attempts : Nat} {status : Status} :
    policy.asksAgain attempts status = true ↔
      status = .code Status.rateLimited ∧ attempts < policy.budget := by
  rw [asksAgain, Bool.and_eq_true, decide_eq_true_eq, Status.isRateLimited, beq_iff_eq]

/-- The final answer is the first within the budget by which the server asks for no pause, and the last
within the budget if it always does. -/
theorem EndsAt.isLeast {policy : RetryPolicy} {ends : Nat → Status} {last : Nat}
    (ended : policy.EndsAt ends last) :
    IsLeast {i | 1 ≤ i ∧ i ≤ policy.budget ∧
      (ends (i - 1) ≠ .code Status.rateLimited ∨ i = policy.budget)} (last + 1) := by
  constructor
  · refine ⟨Nat.le_add_left 1 last, ended.lt_budget, ?_⟩
    by_contra goesOn
    rw [not_or, not_not] at goesOn
    have within : last + 1 < policy.budget := Nat.lt_of_le_of_ne ended.lt_budget goesOn.2
    have again : policy.asksAgain (last + 1) (ends last) = true :=
      asksAgain_eq_true_iff.mpr ⟨goesOn.1, within⟩
    rw [ended.final] at again
    contradiction
  · rintro i ⟨positive, -, final⟩
    by_contra earlier
    obtain ⟨k, rfl⟩ : ∃ k, i = k + 1 := ⟨i - 1, by omega⟩
    obtain ⟨limited, within⟩ := asksAgain_eq_true_iff.mp (ended.again k (by omega))
    rcases final with other | used
    · exact other limited
    · omega

end RetryPolicy

namespace Check

/-! ## Turns -/

/-- What a check can do when it goes on. -/
inductive Turn where
  /-- It sends the request of this number. -/
  | request (url : String) (number : Nat)
  /-- It waits for so long before the next request. -/
  | pause (url : String) (length : Nat)
  /-- It ends. -/
  | outcome (outcome : Outcome)
deriving DecidableEq, Repr

/-- A turn of the check that goes on first, and the progress after it. -/
inductive Does (s : Setting) (p : Progress) : Turn → Progress → Prop where
  | request {url : String} {attempts wakes now : Nat} {others : List Task} {reply : Reply}
      (taken : takeEarliest p.running = some (⟨url, attempts, .due, wakes⟩, others))
      (clock : now = max p.now wakes) (replied : reply = s.probe url (p.requestCount url)) :
      Does s p (.request url (attempts + 1))
        (Progress.resume
          { p with now, running := others, requests := p.requests ++ [⟨url, now⟩] }
          ⟨url, attempts + 1, .inFlight reply.status, now + reply.delay⟩)
  | pause {url : String} {attempts wakes now : Nat} {status : Status} {others : List Task}
      (taken : takeEarliest p.running = some (⟨url, attempts, .inFlight status, wakes⟩, others))
      (clock : now = max p.now wakes) (again : s.policy.asksAgain attempts status = true) :
      Does s p (.pause url s.policy.backoff)
        (Progress.resume { p with now, running := others }
          ⟨url, attempts, .due, now + s.policy.backoff⟩)
  | outcome {url : String} {attempts wakes now : Nat} {status : Status} {others : List Task}
      (taken : takeEarliest p.running = some (⟨url, attempts, .inFlight status, wakes⟩, others))
      (clock : now = max p.now wakes) (final : s.policy.asksAgain attempts status = false) :
      Does s p (.outcome ⟨url, status, attempts⟩)
        (Progress.fill s.limit
          { p with now, running := others, finished := p.finished ++ [⟨url, status, attempts⟩] })

variable {s : Setting} {p q r : Progress} {turn : Turn}

/-- A turn is what happens next by the clock. -/
theorem Does.step (does : Does s p turn q) : p.step? s = some q := by
  cases does with
  | request taken clock replied =>
      rw [Progress.step?, taken, clock, replied]
      rfl
  | pause taken clock again =>
      rw [Progress.step?, taken, clock]
      simp only [Option.map_some, Progress.proceed, again, if_true]
  | outcome taken clock final =>
      rw [Progress.step?, taken, clock]
      simp only [Option.map_some, Progress.proceed, final, Bool.false_eq_true, if_false]

theorem exists_does_of_step (step : p.step? s = some q) : ∃ turn, Does s p turn q := by
  simp only [Progress.step?, Option.map_eq_some_iff] at step
  obtain ⟨⟨⟨url, attempts, phase, wakes⟩, others⟩, taken, rfl⟩ := step
  cases phase with
  | due => exact ⟨_, .request taken rfl rfl⟩
  | inFlight status =>
      cases asks : s.policy.asksAgain attempts status with
      | true =>
          simp only [Progress.proceed, asks, if_true]
          exact ⟨_, .pause taken rfl asks⟩
      | false =>
          simp only [Progress.proceed, asks, Bool.false_eq_true, if_false]
          exact ⟨_, .outcome taken rfl asks⟩

/-- The clock leaves no choice. -/
theorem Does.unique {other : Turn} (first : Does s p turn q) (second : Does s p other r) :
    turn = other ∧ q = r := by
  refine ⟨?_, Option.some.inj (first.step.symm.trans second.step)⟩
  -- Both take the same check, and its phase and the policy leave one kind of turn.
  cases first <;> cases second <;> simp_all

/-! ## Histories -/

/-- Turns that follow one another. -/
inductive History (s : Setting) : Progress → List Turn → Progress → Prop where
  | done (p : Progress) : History s p [] p
  | next {p q r : Progress} {turn : Turn} {turns : List Turn}
      (does : Does s p turn q) (rest : History s q turns r) : History s p (turn :: turns) r

namespace History

variable {turns later : List Turn}

theorem append (first : History s p turns q) (second : History s q later r) :
    History s p (turns ++ later) r := by
  induction first with
  | done p => exact second
  | next does _ ih => exact .next does (ih second)

theorem moves (history : History s p turns q) : Moves s p q := by
  induction history with
  | done p => exact .refl
  | next does _ ih => exact .head (move_of_step does.step) ih

theorem eq_nil_of_ended (history : History s p turns q) (ended : p.running = []) :
    turns = [] ∧ q = p := by
  cases history with
  | done p => exact ⟨rfl, rfl⟩
  | next does _ =>
      have step := does.step
      rw [step?_eq_none_iff.mpr ended] at step
      contradiction

/-- Every history is the front of the one that goes to the end. -/
theorem isPrefix {whole : List Turn} (history : History s p turns q) (complete : History s p whole r)
    (ended : r.running = []) : turns <+: whole := by
  induction history generalizing whole with
  | done p => exact List.nil_prefix
  | next does rest ih =>
      cases complete with
      | done p =>
          obtain ⟨nothing, -⟩ := eq_nil_of_ended (.next does rest) ended
          contradiction
      | next other following =>
          obtain ⟨rfl, rfl⟩ := does.unique other
          exact List.cons_prefix_cons.mpr ⟨rfl, ih following⟩

theorem run_eq (history : History s p turns q) : p.run s = q.run s := by
  induction history with
  | done p => rfl
  | next does _ ih =>
      rw [Progress.run]
      split
      · next stopped =>
          rw [does.step] at stopped
          contradiction
      · next step =>
          rw [does.step, Option.some.injEq] at step
          rw [← step, ih]

/-- A history after which no check is under way ends where the run does. -/
theorem eq_run (history : History s p turns q) (ended : q.running = []) : q = p.run s := by
  rw [history.run_eq, Progress.run]
  split
  · rfl
  · next step =>
      rw [step?_eq_none_iff.mpr ended] at step
      contradiction

end History

theorem exists_history_run (s : Setting) (p : Progress) :
    ∃ turns, History s p turns (p.run s) := by
  fun_induction Progress.run s p with
  | case1 p stopped => exact ⟨[], .done p⟩
  | case2 p q step ih =>
      obtain ⟨turn, does⟩ := exists_does_of_step step
      obtain ⟨turns, rest⟩ := ih
      exact ⟨turn :: turns, .next does rest⟩

/-! ## One address alone -/

/-- A check has not made more requests than the budget allows. -/
theorem Task.Agrees.attempts_le {task : Task} (agrees : task.Agrees s) :
    task.attempts ≤ s.policy.budget := by
  cases agrees with
  | due again => exact Nat.le_of_lt (RetryPolicy.lt_budget_of_all_ask again)
  | inFlight again => exact RetryPolicy.lt_budget_of_all_ask again

section Alone

variable (policy : RetryPolicy) (probe : Probe) (url : String)

/-- The turns of an address that is asked for again `retries` times: a request, and each time a pause and one
request more. -/
def requestTurns (backoff retries : Nat) : List Turn :=
  .request url 1 ::
    (List.range retries).flatMap fun k => [.pause url backoff, .request url (k + 2)]

/-- The only address has been asked for again `retries` times, and the last answer has not come. -/
def asking (retries : Nat) : Progress where
  now := sendTime policy probe url retries
  waiting := []
  running := [⟨url, retries + 1, .inFlight (probe url retries).status,
    sendTime policy probe url retries + (probe url retries).delay⟩]
  finished := []
  requests := requestsAlone policy probe url (retries + 1)

def pausing (retries : Nat) : Progress where
  now := sendTime policy probe url retries + (probe url retries).delay
  waiting := []
  running := [⟨url, retries + 1, .due, sendTime policy probe url (retries + 1)⟩]
  finished := []
  requests := requestsAlone policy probe url (retries + 1)

def answered (retries : Nat) : Progress where
  now := sendTime policy probe url retries + (probe url retries).delay
  waiting := []
  running := []
  finished := [⟨url, (probe url retries).status, retries + 1⟩]
  requests := requestsAlone policy probe url (retries + 1)

end Alone

variable {policy : RetryPolicy} {probe : Probe} {url : String}

theorem requestTurns_succ (backoff retries : Nat) :
    requestTurns url backoff (retries + 1) =
      requestTurns url backoff retries ++ [.pause url backoff, .request url (retries + 2)] := by
  rw [requestTurns, List.range_succ, List.flatMap_append]
  rfl

theorem countP_requestsAlone (count : Nat) :
    (requestsAlone policy probe url count).countP (·.url == url) = count := by
  simp [requestsAlone, List.countP_map, Function.comp_def]

theorem resume_of_no_other {task : Task} (alone : p.running = []) :
    p.resume task = { p with running := [task] } := by
  simp only [Progress.resume, alone, List.nil_append, ite_self]

theorem start_singleton {limit : Nat} (room : 0 < limit) (url : String) :
    Progress.start limit [url] = ⟨0, [], [Task.begin 0 url], [], []⟩ := by
  cases limit with
  | zero => contradiction
  | succ limit => simp [Progress.start, Progress.fill]

theorem does_first_request (room : 0 < s.limit) (url : String) :
    Does s (Progress.start s.limit [url]) (.request url 1) (asking s.policy s.probe url 0) := by
  rw [start_singleton room]
  have sends := @Does.request s ⟨0, [], [Task.begin 0 url], [], []⟩ url 0 0 0 [] _ rfl rfl rfl
  rw [resume_of_no_other rfl] at sends
  exact sends

theorem answer_time (policy : RetryPolicy) (probe : Probe) (url : String) (earlier : Nat) :
    sendTime policy probe url earlier + (probe url earlier).delay =
      max (sendTime policy probe url earlier)
        (sendTime policy probe url earlier + (probe url earlier).delay) :=
  (Nat.max_eq_right (Nat.le_add_right _ _)).symm

theorem does_pause {retries : Nat}
    (again : s.policy.asksAgain (retries + 1) (s.probe url retries).status = true) :
    Does s (asking s.policy s.probe url retries) (.pause url s.policy.backoff)
      (pausing s.policy s.probe url retries) := by
  have clock := answer_time s.policy s.probe url retries
  have waits := @Does.pause s (asking s.policy s.probe url retries) _ _ _ _ _ [] rfl clock again
  rw [resume_of_no_other rfl, Nat.add_assoc, ← sendTime_succ] at waits
  exact waits

theorem does_next_request (retries : Nat) :
    Does s (pausing s.policy s.probe url retries) (.request url (retries + 2))
      (asking s.policy s.probe url (retries + 1)) := by
  have later : sendTime s.policy s.probe url retries + (s.probe url retries).delay ≤
      sendTime s.policy s.probe url (retries + 1) := by
    rw [sendTime_succ]
    omega
  have replied : s.probe url (retries + 1) =
      s.probe url ((pausing s.policy s.probe url retries).requestCount url) :=
    congrArg (s.probe url) (countP_requestsAlone (retries + 1)).symm
  have sends := @Does.request s (pausing s.policy s.probe url retries) _ _ _ _ [] _ rfl
    (Nat.max_eq_right later).symm replied
  rw [resume_of_no_other rfl] at sends
  rw [asking, requestsAlone_succ]
  exact sends

theorem does_outcome {retries : Nat}
    (final : s.policy.asksAgain (retries + 1) (s.probe url retries).status = false) :
    Does s (asking s.policy s.probe url retries)
      (.outcome ⟨url, (s.probe url retries).status, retries + 1⟩)
      (answered s.policy s.probe url retries) := by
  have clock := answer_time s.policy s.probe url retries
  have ends := @Does.outcome s (asking s.policy s.probe url retries) _ _ _ _ _ [] rfl clock final
  simpa only [Progress.fill, asking, answered, List.take_nil, List.drop_nil, List.map_nil,
    List.append_nil, List.nil_append] using ends

/-- The history of the only address as long as the answers ask for more requests. -/
theorem history_asking (room : 0 < s.limit) {retries : Nat}
    (again : ∀ k, k < retries → s.policy.asksAgain (k + 1) (s.probe url k).status = true) :
    History s (Progress.start s.limit [url]) (requestTurns url s.policy.backoff retries)
      (asking s.policy s.probe url retries) := by
  induction retries with
  | zero => exact .next (does_first_request room url) (.done _)
  | succ retries ih =>
      rw [requestTurns_succ]
      have before := ih fun k earlier => again k (Nat.lt_succ_of_lt earlier)
      exact before.append
        (.next (does_pause (again retries (Nat.lt_succ_self retries)))
          (.next (does_next_request retries) (.done _)))

/-- The history of the only address up to its final answer. -/
theorem history_answered (room : 0 < s.limit) {last : Nat}
    (ended : s.policy.EndsAt (fun k => (s.probe url k).status) last) :
    History s (Progress.start s.limit [url])
      (requestTurns url s.policy.backoff last ++
        [.outcome ⟨url, (s.probe url last).status, last + 1⟩])
      (answered s.policy s.probe url last) :=
  (history_asking room ended.again).append (.next (does_outcome ended.final) (.done _))

/-- An address alone, under any policy and with any answers. Let `n` be the number of the first answer within
the budget by which the server asks for no pause, or the budget if there is none. The check sends `n` requests,
waits for the backoff between each two of them and at no other time, and ends with the `n`-th answer as it came.
There is no other history, and the number of requests never goes beyond the budget, so that it fits into 32
bits. -/
theorem turns_until_final_answer (url : String) (backoff : Nat) (maxAttempts : UInt32)
    (probe : Probe) (cap : Option Nat) :
    let policy : RetryPolicy := ⟨backoff, maxAttempts.toNat⟩
    let most := max 1 maxAttempts.toNat
    let s : Setting := ⟨policy, probe, limitFor cap [url]⟩
    let begun := Progress.start s.limit [url]
    let ended := runAll policy probe cap [url]
    ∃ n, IsLeast {i | 1 ≤ i ∧ i ≤ most ∧
        ((probe url (i - 1)).status ≠ .code 429 ∨ i = most)} n ∧
      let outcome : Outcome := ⟨url, (probe url (n - 1)).status, n⟩
      let turns := requestTurns url backoff (n - 1) ++ [.outcome outcome]
      History s begun turns ended ∧ ended.running = [] ∧
      ended.finished = [outcome] ∧ checkOne policy probe url = outcome ∧
      ended.requests = requestsAlone policy probe url n ∧
      ∀ front p, History s begun front p → front <+: turns ∧
        ∀ task ∈ p.running, task.attempts ≤ most ∧
          (UInt32.ofNat task.attempts).toNat = task.attempts := by
  intro policy most s begun ended
  obtain ⟨last, endsAt⟩ := policy.exists_endsAt fun k => (probe url k).status
  refine ⟨last + 1, endsAt.isLeast, ?_⟩
  intro outcome turns
  have room : 0 < s.limit := Nat.le_max_left 1 _
  have history : History s begun turns (answered policy probe url last) :=
    history_answered room endsAt
  have reached : answered policy probe url last = ended := history.eq_run rfl
  rw [← reached]
  refine ⟨history, rfl, rfl, checkOne_of_endsAt endsAt, rfl, ?_⟩
  intro front p going
  refine ⟨going.isPrefix history rfl, ?_⟩
  intro task member
  have sound := (Sound.start s [url]).moves (List.pairwise_singleton _ url) going.moves
  have within : task.attempts ≤ most := (sound.tracks.running task member).1.attempts_le
  refine ⟨within, UInt32.toNat_ofNat_of_lt' ?_⟩
  have bounded : maxAttempts.toNat < UInt32.size := maxAttempts.toNat_lt
  have small : 1 < UInt32.size := by decide
  omega

/-- The last answer within the budget is the outcome even if the server asks for a pause. -/
example : checkOne ⟨20000, 2⟩ (fun _ _ => ⟨.code 429, 7⟩) "https://a.test" =
    ⟨"https://a.test", .code 429, 2⟩ := by
  decide

end Check

end LinkGate
