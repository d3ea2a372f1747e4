import LinkGate.Proofs.CheckTurns
import Mathlib.Data.List.Perm.Subperm

/-!
# Slots of checks

A check takes up a slot from its beginning to its end: before its first request, while a request is not
answered, and during the pauses between its requests. `Slots` says what every order of moves keeps: there
are never more checks under way than slots, and no check puts off a request for longer than its pause. The
addresses that have been asked for and have no outcome are among those that take up a slot.
-/

namespace LinkGate.Check

/-! ## What checks are doing -/

def Task.isAsking (task : Task) : Bool :=
  match task.phase with
  | .due => false
  | .inFlight _ => true

def Task.isFresh (task : Task) : Bool :=
  task.attempts == 0

/-- Whether a check waits between an answer and its next request. -/
def Task.isPausing (task : Task) : Bool :=
  !task.isAsking && !task.isFresh

namespace Progress

/-- How many requests are sent and not answered. -/
def inFlight (p : Progress) : Nat :=
  p.running.countP Task.isAsking

def pausing (p : Progress) : Nat :=
  p.running.countP Task.isPausing

def asked (urls : List String) (p : Progress) : List String :=
  urls.filter fun url => 0 < p.requestCount url

/-- The addresses of a list that have been asked for and have no outcome. -/
def underWay (urls : List String) (p : Progress) : List String :=
  (p.asked urls).filter fun url => url ∉ p.finished.map Outcome.url

/-- Everything has happened that is due at the time. -/
def Settled (p : Progress) : Prop :=
  ∀ task ∈ p.running, p.now < task.wakes

end Progress

variable {s : Setting} {urls : List String} {p q : Progress}

theorem Task.Agrees.attempts_ne_zero {url : String} {attempts wakes : Nat} {status : Status}
    (agrees : Task.Agrees s ⟨url, attempts, .inFlight status, wakes⟩) : attempts ≠ 0 := by
  cases agrees with
  | inFlight again => exact Nat.succ_ne_zero _

theorem Task.Agrees.isFresh_of_isAsking {task : Task} (agrees : task.Agrees s)
    (asking : task.isAsking = true) : task.isFresh = false := by
  obtain ⟨url, attempts, phase, wakes⟩ := task
  cases phase with
  | due => contradiction
  | inFlight status => exact beq_eq_false_iff_ne.mpr agrees.attempts_ne_zero

namespace Progress

/-- A check that waits for an answer counts wherever it waits. -/
theorem inFlight_resume (p : Progress) (task : Task) :
    (p.resume task).inFlight = p.inFlight + if task.isAsking then 1 else 0 := by
  rw [inFlight, (running_resume_perm p task).countP_eq, List.countP_cons]
  rfl

theorem inFlight_fill (limit : Nat) (p : Progress) : (p.fill limit).inFlight = p.inFlight := by
  have silent : ∀ task ∈ (p.waiting.take (limit - p.running.length)).map (Task.begin p.now),
      ¬ task.isAsking = true := by
    intro task begun
    obtain ⟨url, -, rfl⟩ := List.mem_map.mp begun
    exact Bool.false_ne_true
  rw [inFlight, fill, List.countP_append, List.countP_eq_zero.mpr silent]
  rfl

end Progress

/-! ## Where addresses are -/

namespace Tracks

variable {tasks : List Task}

theorem requestCount_eq_zero {url : String} (tracks : Tracks s urls p tasks) (member : url ∈ urls)
    (unasked : p.requestCount url = 0) :
    url ∈ p.waiting ∨ ∃ task ∈ tasks, task.url = url ∧ task.isFresh = true := by
  have placed := tracks.placed.mem_iff.mpr member
  simp only [List.mem_append, List.mem_map] at placed
  rcases placed with (waits | ⟨task, running, rfl⟩) | ⟨o, finished, rfl⟩
  · exact Or.inl waits
  · have counted := (tracks.running task running).2
    exact Or.inr ⟨task, running, rfl, beq_iff_eq.mpr (counted.symm.trans unasked)⟩
  · obtain ⟨alone, counted⟩ := tracks.finished o finished
    have once := (attempts_checkOne s.policy s.probe o.url).1
    rw [← alone, ← counted, unasked] at once
    contradiction

/-- An address that has been asked for and has no outcome belongs to a check under way. -/
theorem underWay_subset (tracks : Tracks s urls p tasks) :
    p.underWay urls ⊆ tasks.map Task.url := by
  intro url member
  simp only [Progress.underWay, Progress.asked, List.mem_filter, decide_eq_true_eq] at member
  obtain ⟨⟨inUrls, asked⟩, noOutcome⟩ := member
  have placed := tracks.placed.mem_iff.mpr inUrls
  rw [List.mem_append, List.mem_append] at placed
  rcases placed with (waits | running) | finished
  · rw [tracks.unasked url waits] at asked
    contradiction
  · exact running
  · exact absurd finished noOutcome

theorem nodup_running (tracks : Tracks s urls p tasks) (distinct : urls.Nodup) :
    (tasks.map Task.url).Nodup ∧
      ∀ task ∈ tasks, task.url ∉ p.finished.map Outcome.url := by
  have nodup := tracks.placed.nodup_iff.mpr distinct
  rw [List.append_assoc] at nodup
  obtain ⟨-, nodup, -⟩ := List.nodup_append.mp nodup
  obtain ⟨different, -, apart⟩ := List.nodup_append.mp nodup
  refine ⟨different, ?_⟩
  intro task member finished
  exact apart _ (List.mem_map_of_mem member) _ finished rfl

end Tracks

/-! ## What every move keeps -/

structure Slots (s : Setting) (now : Nat) (tasks : List Task) : Prop where
  within : tasks.length ≤ s.limit
  /-- A first request is due at once, and any other one after the pause. -/
  timely : ∀ task ∈ tasks, task.isAsking = false →
    task.wakes ≤ now + if task.isFresh then 0 else s.policy.backoff

namespace Slots

theorem perm {now : Nat} {first second : List Task} (slots : Slots s now first)
    (same : first.Perm second) : Slots s now second where
  within := same.length_eq ▸ slots.within
  timely := fun task member => slots.timely task (same.mem_iff.mpr member)

theorem resume {task : Task} (slots : Slots s p.now (task :: p.running)) :
    Slots s (p.resume task).now (p.resume task).running :=
  slots.perm (running_resume_perm p task).symm

/-- No more checks begin than there is room for, and they are due at once. -/
theorem fill (slots : Slots s p.now p.running) :
    Slots s (p.fill s.limit).now (p.fill s.limit).running := by
  have within := slots.within
  refine ⟨?_, ?_⟩
  · simp only [Progress.fill, List.length_append, List.length_map, List.length_take]
    omega
  · intro task member
    rcases List.mem_append.mp member with earlier | begun
    · exact slots.timely task earlier
    · obtain ⟨url, -, rfl⟩ := List.mem_map.mp begun
      exact fun _ => Nat.le_refl _

theorem start (s : Setting) (urls : List String) :
    Slots s (Progress.start s.limit urls).now (Progress.start s.limit urls).running :=
  fill ⟨Nat.zero_le _, fun _ member => nomatch member⟩

theorem replace {now : Nat} {task other : Task} {others : List Task}
    (slots : Slots s now (task :: others))
    (timely : other.isAsking = false →
      other.wakes ≤ now + if other.isFresh then 0 else s.policy.backoff) :
    Slots s now (other :: others) :=
  ⟨slots.within, List.forall_mem_cons.mpr ⟨timely, (List.forall_mem_cons.mp slots.timely).2⟩⟩

theorem later {now time : Nat} {tasks : List Task} (slots : Slots s now tasks) (le : now ≤ time) :
    Slots s time tasks :=
  ⟨slots.within, fun task member waits =>
    Nat.le_trans (slots.timely task member waits) (Nat.add_le_add_right le _)⟩

theorem tail {now : Nat} {task : Task} {others : List Task} (slots : Slots s now (task :: others)) :
    Slots s now others :=
  ⟨Nat.le_of_succ_le slots.within, (List.forall_mem_cons.mp slots.timely).2⟩

/-- Every move keeps the checks in their slots. -/
theorem move (slots : Slots s p.now p.running) (sound : Sound s urls p) (move : Move s p q) :
    Slots s q.now q.running := by
  cases move with
  | @goOn task others time running later =>
      have taken : Slots s time (task :: others) := (slots.perm running).later later
      have agrees := (sound.tracks.running task (running.mem_iff.mpr List.mem_cons_self)).1
      obtain ⟨url, attempts, phase, wakes⟩ := task
      cases phase with
      | due =>
          refine resume (p := { p with now := time, running := others, requests := _ }) ?_
          exact taken.replace fun waits => nomatch waits
      | inFlight status =>
          cases asks : s.policy.asksAgain attempts status with
          | true =>
              simp only [Progress.proceed, asks, if_true]
              refine resume (p := { p with now := time, running := others }) ?_
              refine taken.replace fun _ => ?_
              rw [Task.isFresh, beq_eq_false_iff_ne.mpr agrees.attempts_ne_zero]
              exact Nat.le_refl _
          | false =>
              simp only [Progress.proceed, asks, Bool.false_eq_true, if_false]
              exact fill (p := { p with now := time, running := others, finished := _ }) taken.tail

theorem moves (slots : Slots s p.now p.running) (sound : Sound s urls p) (distinct : urls.Nodup)
    (moves : Moves s p q) : Slots s q.now q.running := by
  induction moves with
  | refl => exact slots
  | tail earlier step ih => exact ih.move (sound.moves distinct earlier) step

end Slots

/-! ## Checks between their first request and their outcome -/

/-- Requests that are not answered are for different addresses, which have no outcome. -/
theorem inFlight_le_length_underWay (sound : Sound s urls p) (distinct : urls.Nodup) :
    p.inFlight ≤ (p.underWay urls).length := by
  obtain ⟨different, noOutcome⟩ := sound.tracks.nodup_running distinct
  rw [Progress.inFlight, List.countP_eq_length_filter, ← List.length_map (f := Task.url)]
  refine ((different.sublist (List.filter_sublist.map _)).subperm ?_).length_le
  intro url member
  obtain ⟨task, inFlight, rfl⟩ := List.mem_map.mp member
  obtain ⟨running, asking⟩ := List.mem_filter.mp inFlight
  obtain ⟨agrees, counted⟩ := sound.tracks.running task running
  have asked : 0 < p.requestCount task.url := by
    rw [counted]
    exact Nat.pos_of_ne_zero (beq_eq_false_iff_ne.mp (agrees.isFresh_of_isAsking asking))
  simp only [Progress.underWay, Progress.asked, List.mem_filter, decide_eq_true_eq]
  exact ⟨⟨sound.tracks.url_mem running, asked⟩, noOutcome task running⟩

/-- There are no more addresses between their first request and their outcome than slots. -/
theorem length_underWay_le (sound : Sound s urls p) (slots : Slots s p.now p.running)
    (distinct : urls.Nodup) : (p.underWay urls).length ≤ s.limit := by
  have nodup : (p.underWay urls).Nodup := (distinct.filter _).filter _
  have bound := (nodup.subperm sound.tracks.underWay_subset).length_le
  rw [List.length_map] at bound
  exact Nat.le_trans bound slots.within

end LinkGate.Check
