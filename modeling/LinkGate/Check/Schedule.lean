import LinkGate.Check.Retry

/-!
# Checking many addresses at once

Checks run side by side on one clock that counts milliseconds. Only waiting takes time: for the end of
a request, or for the pause before the next one. At most a given number of checks have begun and not
ended; whenever one ends, the next address in the list begins.

A check that has to wait comes up again when its time has come, and among checks that come up at the
same time the one that began to wait first goes on first.
-/

namespace LinkGate.Check

inductive Phase where
  /-- The time to send the next request. -/
  | due
  /-- The end of a request, which will be this one. -/
  | inFlight (status : Status)
deriving DecidableEq, Repr

structure Task where
  url : String
  /-- How many requests have been sent. -/
  attempts : Nat
  phase : Phase
  /-- When the check goes on. -/
  wakes : Nat
deriving DecidableEq, Repr

structure Request where
  url : String
  time : Nat
deriving DecidableEq, Repr

/-- All that has happened up to a time. -/
structure Progress where
  now : Nat
  /-- Addresses whose checks have not begun. -/
  waiting : List String
  /-- Checks that have begun and not ended, in the order in which they go on at one time. -/
  running : List Task
  /-- The outcomes, in the order in which the checks ended. -/
  finished : List Outcome
  /-- All requests, in the order in which they were sent. -/
  requests : List Request
deriving DecidableEq, Repr

structure Setting where
  policy : RetryPolicy
  probe : Probe
  /-- How many checks may run side by side. -/
  limit : Nat

def Task.begin (now : Nat) (url : String) : Task :=
  { url, attempts := 0, phase := .due, wakes := now }

def takeEarliest : List Task → Option (Task × List Task)
  | [] => none
  | task :: rest =>
    match takeEarliest rest with
    | none => some (task, [])
    | some (other, others) =>
      if task.wakes ≤ other.wakes then some (task, rest) else some (other, task :: others)

namespace Progress

def fill (limit : Nat) (p : Progress) : Progress :=
  let room := limit - p.running.length
  { p with
    waiting := p.waiting.drop room
    running := p.running ++ (p.waiting.take room).map (Task.begin p.now) }

/-- Lets a task wait: in front of the others if it goes on at once, and else behind them. -/
def resume (p : Progress) (task : Task) : Progress :=
  { p with running := if task.wakes ≤ p.now then task :: p.running else p.running ++ [task] }

def requestCount (p : Progress) (url : String) : Nat :=
  p.requests.countP (·.url == url)

def proceed (s : Setting) (p : Progress) (task : Task) : Progress :=
  match task.phase with
  | .due =>
    let reply := s.probe task.url (p.requestCount task.url)
    let sent : Progress := { p with requests := p.requests ++ [⟨task.url, p.now⟩] }
    sent.resume { task with
      attempts := task.attempts + 1
      phase := .inFlight reply.status
      wakes := p.now + reply.delay }
  | .inFlight status =>
    if s.policy.asksAgain task.attempts status then
      -- The check keeps its slot during the pause.
      p.resume { task with phase := .due, wakes := p.now + s.policy.backoff }
    else
      let ended : Progress :=
        { p with finished := p.finished ++ [⟨task.url, status, task.attempts⟩] }
      ended.fill s.limit

/-- Moves the clock to the next task that goes on, and lets it. -/
def step? (s : Setting) (p : Progress) : Option Progress :=
  (takeEarliest p.running).map fun (task, others) =>
    let woken : Progress := { p with now := max p.now task.wakes, running := others }
    woken.proceed s task

/-! ## The end of a run

Every step uses up some of a budget: each check needs at most two steps for every request. -/

def taskBudget (policy : RetryPolicy) (task : Task) : Nat :=
  match task.phase with
  | .due => 2 * (policy.budget - task.attempts) + 2
  | .inFlight _ =>
    if task.attempts < policy.budget then 2 * (policy.budget - task.attempts) + 3 else 1

def tasksBudget (policy : RetryPolicy) : List Task → Nat
  | [] => 0
  | task :: rest => taskBudget policy task + tasksBudget policy rest

/-- A bound on the steps that all checks together can still make. -/
def budget (policy : RetryPolicy) (p : Progress) : Nat :=
  p.waiting.length * (2 * policy.budget + 2) + tasksBudget policy p.running

theorem tasksBudget_append (policy : RetryPolicy) (first second : List Task) :
    tasksBudget policy (first ++ second) = tasksBudget policy first + tasksBudget policy second := by
  induction first with
  | nil => simp [tasksBudget]
  | cons task rest ih =>
    simp only [List.cons_append, tasksBudget, ih]
    omega

theorem tasksBudget_begin (policy : RetryPolicy) (now : Nat) (urls : List String) :
    tasksBudget policy (urls.map (Task.begin now)) = urls.length * (2 * policy.budget + 2) := by
  induction urls with
  | nil => simp [tasksBudget]
  | cons url rest ih =>
    simp only [List.map_cons, tasksBudget, ih, List.length_cons, Nat.add_mul, taskBudget, Task.begin]
    omega

theorem takeEarliest_eq_none {tasks : List Task} (h : takeEarliest tasks = none) : tasks = [] := by
  cases tasks with
  | nil => rfl
  | cons first rest =>
    unfold takeEarliest at h
    split at h
    · simp at h
    · split at h <;> simp at h

theorem tasksBudget_takeEarliest (policy : RetryPolicy) {tasks others : List Task} {task : Task}
    (h : takeEarliest tasks = some (task, others)) :
    tasksBudget policy tasks = taskBudget policy task + tasksBudget policy others := by
  induction tasks generalizing task others with
  | nil => simp [takeEarliest] at h
  | cons first rest ih =>
    unfold takeEarliest at h
    split at h
    · next hrest =>
      simp only [Option.some.injEq, Prod.mk.injEq] at h
      obtain ⟨rfl, rfl⟩ := h
      simp [takeEarliest_eq_none hrest, tasksBudget]
    · next other remaining hrest =>
      have := ih hrest
      split at h <;> simp only [Option.some.injEq, Prod.mk.injEq] at h <;> obtain ⟨rfl, rfl⟩ := h
      · rw [tasksBudget]
      · simp only [tasksBudget]
        omega

theorem budget_fill (policy : RetryPolicy) (limit : Nat) (p : Progress) :
    (p.fill limit).budget policy = p.budget policy := by
  simp only [budget, fill, tasksBudget_append, tasksBudget_begin, List.length_drop,
    List.length_take]
  generalize limit - p.running.length = room
  have : p.waiting.length = (p.waiting.length - room) + min room p.waiting.length := by omega
  calc _ = ((p.waiting.length - room) + min room p.waiting.length) * (2 * policy.budget + 2) +
        tasksBudget policy p.running := by rw [Nat.add_mul]; omega
    _ = _ := by rw [← this]

theorem budget_resume (policy : RetryPolicy) (p : Progress) (task : Task) :
    (p.resume task).budget policy = p.budget policy + taskBudget policy task := by
  unfold resume budget
  split <;> simp only [tasksBudget, tasksBudget_append] <;> omega

theorem budget_proceed_lt (s : Setting) (p : Progress) (task : Task) :
    (p.proceed s task).budget s.policy < p.budget s.policy + taskBudget s.policy task := by
  unfold proceed
  split
  · next hphase =>
    rw [budget_resume]
    simp only [budget, taskBudget, hphase]
    split <;> omega
  · next status hphase =>
    split
    · next hagain =>
      have : task.attempts < s.policy.budget := by
        simp only [RetryPolicy.asksAgain, Bool.and_eq_true, decide_eq_true_eq] at hagain
        exact hagain.2
      rw [budget_resume]
      simp only [taskBudget, hphase, this, if_true]
      omega
    · rw [budget_fill]
      simp only [budget, taskBudget, hphase]
      split <;> omega

theorem budget_step_lt {s : Setting} {p q : Progress} (h : p.step? s = some q) :
    q.budget s.policy < p.budget s.policy := by
  simp only [step?, Option.map_eq_some_iff] at h
  obtain ⟨⟨task, others⟩, hpick, rfl⟩ := h
  refine Nat.lt_of_lt_of_eq (budget_proceed_lt _ _ _) ?_
  simp only [budget, tasksBudget_takeEarliest _ hpick]
  omega

def run (s : Setting) (p : Progress) : Progress :=
  match _h : p.step? s with
  | none => p
  | some q => q.run s
termination_by p.budget s.policy
decreasing_by exact budget_step_lt _h

def start (limit : Nat) (urls : List String) : Progress :=
  let idle : Progress := ⟨0, urls, [], [], []⟩
  idle.fill limit

end Progress

/-! ## Whole runs -/

/-- How many checks may run side by side: as many as asked for, but at least one, and without a wish
all of them. -/
def limitFor (cap : Option Nat) (urls : List String) : Nat :=
  max 1 (cap.getD urls.length)

def runAll (policy : RetryPolicy) (probe : Probe) (cap : Option Nat) (urls : List String) :
    Progress :=
  let limit := limitFor cap urls
  (Progress.start limit urls).run ⟨policy, probe, limit⟩

/-- Outcomes in increasing order of their addresses; those of one address keep their order. -/
def sortOutcomes (outcomes : List Outcome) : List Outcome :=
  outcomes.mergeSort fun a b => a.url ≤ b.url

def checkAll (policy : RetryPolicy) (probe : Probe) (cap : Option Nat) (urls : List String) :
    List Outcome :=
  sortOutcomes (runAll policy probe cap urls).finished

end LinkGate.Check
