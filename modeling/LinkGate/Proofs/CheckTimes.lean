import LinkGate.Proofs.CheckAnyOrder
import Mathlib.Algebra.Ring.Nat
import Mathlib.Data.List.MinMax
import Mathlib.Order.Nat

/-!
# Times of requests

Only the wait for an answer and the pause before the next request take time. `sendTime` and `endTime` say
when an address that is checked alone is asked for and has its outcome. `Tick` is what the clock allows: a
check goes on that is among those that go on first, whichever of these it is. While there is room for all
checks, `OnTime` holds after every tick: each address is asked for at its own times, whatever else is checked,
and the end of all checks is the latest end of one.
-/

namespace LinkGate.Check

/-! ## One address alone -/

section Alone

variable (policy : RetryPolicy) (probe : Probe) (url : String)

/-- When an address is asked for that was asked for `earlier` times before, each time until the answer and
for a pause behind it. -/
def sendTime (earlier : Nat) : Nat :=
  ((List.range earlier).map fun k => (probe url k).delay + policy.backoff).sum

/-- When the last request of an address is answered. -/
def endTime : Nat :=
  let last := (checkOne policy probe url).attempts - 1
  sendTime policy probe url last + (probe url last).delay

/-- The first requests of an address with their times. -/
def requestsAlone (count : Nat) : List Request :=
  (List.range count).map fun k => ⟨url, sendTime policy probe url k⟩

/-- The latest end of some addresses that are checked alone; zero if there are none. -/
def latestEnd (urls : List String) : Nat :=
  (urls.map (endTime policy probe)).foldr max 0

end Alone

variable {policy : RetryPolicy} {probe other : Probe} {url : String}

theorem sendTime_zero : sendTime policy probe url 0 = 0 :=
  rfl

theorem sendTime_succ (earlier : Nat) :
    sendTime policy probe url (earlier + 1) =
      sendTime policy probe url earlier + ((probe url earlier).delay + policy.backoff) := by
  rw [sendTime, List.range_succ, List.map_append, List.sum_append]
  rfl

theorem sendTime_le_of_le {first second : Nat} (before : first ≤ second) :
    sendTime policy probe url first ≤ sendTime policy probe url second := by
  induction before with
  | refl => exact Nat.le_refl _
  | step _ ih =>
      rw [sendTime_succ]
      exact Nat.le_add_right_of_le ih

/-- An address has its outcome when its final answer comes. -/
theorem endTime_of_endsAt {last : Nat}
    (ended : policy.EndsAt (fun k => (probe url k).status) last) :
    endTime policy probe url = sendTime policy probe url last + (probe url last).delay := by
  simp only [endTime, checkOne_of_endsAt ended, Nat.add_sub_cancel]

/-- No answer comes after the final one. -/
theorem answered_le_endTime {answered : Nat}
    (again : ∀ k, k < answered → policy.asksAgain (k + 1) (probe url k).status = true) :
    sendTime policy probe url answered + (probe url answered).delay ≤ endTime policy probe url := by
  obtain ⟨last, ended⟩ := policy.exists_endsAt fun k => (probe url k).status
  rw [endTime_of_endsAt ended]
  have reached : answered ≤ last := by
    by_contra beyond
    have asks := again last (Nat.lt_of_not_le beyond)
    rw [ended.final] at asks
    contradiction
  rcases Nat.eq_or_lt_of_le reached with rfl | before
  · exact Nat.le_refl _
  · have later : sendTime policy probe url (answered + 1) ≤ sendTime policy probe url last :=
      sendTime_le_of_le before
    rw [sendTime_succ] at later
    omega

theorem requestsAlone_succ (count : Nat) :
    requestsAlone policy probe url (count + 1) =
      requestsAlone policy probe url count ++ [⟨url, sendTime policy probe url count⟩] := by
  rw [requestsAlone, List.range_succ, List.map_append]
  rfl

theorem requestsAlone_congr (same : ∀ k, probe url k = other url k) :
    requestsAlone policy probe url (checkOne policy probe url).attempts =
      requestsAlone policy other url (checkOne policy other url).attempts := by
  have outcome : checkOne policy probe url = checkOne policy other url :=
    checkOne_congr policy fun k => congrArg Reply.status (same k)
  rw [outcome]
  unfold requestsAlone sendTime
  simp only [same]

/-! ## What the clock allows -/

/-- One tick of the clock: a check goes on before which no other one does. -/
inductive Tick (s : Setting) (p : Progress) : Progress → Prop where
  | goOn {task : Task} {others : List Task}
      (running : p.running.Perm (task :: others))
      (earliest : ∀ other ∈ others, task.wakes ≤ other.wakes) :
      Tick s p
        (Progress.proceed s { p with now := max p.now task.wakes, running := others } task)

abbrev Ticks (s : Setting) : Progress → Progress → Prop :=
  Relation.ReflTransGen (Tick s)

theorem Tick.move {s : Setting} {p q : Progress} (tick : Tick s p q) : Move s p q := by
  cases tick with
  | goOn running earliest => exact .goOn running (Nat.le_max_left _ _)

/-- The task that is taken out goes on before the others. -/
theorem takeEarliest_earliest {tasks others : List Task} {task : Task}
    (taken : takeEarliest tasks = some (task, others)) :
    ∀ other ∈ others, task.wakes ≤ other.wakes := by
  induction tasks generalizing task others with
  | nil => simp [takeEarliest] at taken
  | cons first rest ih =>
      unfold takeEarliest at taken
      split at taken
      · next none =>
          simp only [Option.some.injEq, Prod.mk.injEq] at taken
          obtain ⟨rfl, rfl⟩ := taken
          intro other member
          cases member
      · next least remaining found =>
          split at taken <;> simp only [Option.some.injEq, Prod.mk.injEq] at taken <;>
            obtain ⟨rfl, rfl⟩ := taken
          · next before =>
              intro other member
              rcases List.mem_cons.mp ((takeEarliest_perm found).mem_iff.mp member) with rfl | member
              · exact before
              · exact Nat.le_trans before (ih found other member)
          · next after =>
              intro other member
              rcases List.mem_cons.mp member with rfl | member
              · exact Nat.le_of_lt (Nat.lt_of_not_le after)
              · exact ih found other member

theorem ticks_run (s : Setting) (p : Progress) : Ticks s p (p.run s) := by
  fun_induction Progress.run s p with
  | case1 p stopped => exact .refl
  | case2 p q step ih =>
      simp only [Progress.step?, Option.map_eq_some_iff] at step
      obtain ⟨⟨task, others⟩, taken, rfl⟩ := step
      exact .head (.goOn (takeEarliest_perm taken) (takeEarliest_earliest taken)) ih

/-! ## What every tick keeps -/

/-- A check that goes on when it would if it were alone. -/
inductive Task.Punctual (s : Setting) : Task → Prop where
  | due {url : String} {attempts wakes : Nat}
      (time : wakes = sendTime s.policy s.probe url attempts) :
      Punctual s ⟨url, attempts, .due, wakes⟩
  | inFlight {url : String} {answered wakes : Nat} {status : Status}
      (time : wakes = sendTime s.policy s.probe url answered + (s.probe url answered).delay) :
      Punctual s ⟨url, answered + 1, .inFlight status, wakes⟩

/-- A check that goes on when it would if it were alone does so before its end. -/
theorem Task.Punctual.wakes_le {s : Setting} {task : Task} (punctual : task.Punctual s)
    (agrees : task.Agrees s) : task.wakes ≤ endTime s.policy s.probe task.url := by
  cases punctual with
  | due time =>
      cases agrees with
      | due again =>
          rw [time]
          exact Nat.le_trans (Nat.le_add_right _ _) (answered_le_endTime again)
  | inFlight time =>
      cases agrees with
      | inFlight again =>
          rw [time]
          exact answered_le_endTime again

/-- What is true at any time while there is room for all checks, `tasks` being those that have begun and
not ended. -/
structure OnTime (s : Setting) (urls : List String) (p : Progress) (tasks : List Task) : Prop where
  noneWaits : p.waiting = []
  sent : ∀ url, p.requests.filter (·.url == url) =
    requestsAlone s.policy s.probe url (p.requestCount url)
  running : ∀ task ∈ tasks, task.Punctual s ∧ p.now ≤ task.wakes
  ended : ∀ o ∈ p.finished, endTime s.policy s.probe o.url ≤ p.now
  /-- The clock has not gone beyond the end of every check. -/
  reached : p.now ≤ latestEnd s.policy s.probe urls

namespace OnTime

variable {s : Setting} {urls : List String} {p q : Progress}

theorem perm {first second : List Task} (onTime : OnTime s urls p first)
    (same : first.Perm second) : OnTime s urls p second where
  noneWaits := onTime.noneWaits
  sent := onTime.sent
  running := fun task member => onTime.running task (same.mem_iff.mpr member)
  ended := onTime.ended
  reached := onTime.reached

theorem wake {task : Task} {others : List Task} (onTime : OnTime s urls p (task :: others))
    (tracks : Tracks s urls p (task :: others))
    (earliest : ∀ other ∈ others, task.wakes ≤ other.wakes) :
    OnTime s urls { p with now := task.wakes, running := others } (task :: others) := by
  obtain ⟨punctual, later⟩ := onTime.running task List.mem_cons_self
  refine ⟨onTime.noneWaits, onTime.sent, ?_, ?_, ?_⟩
  · intro other member
    refine ⟨(onTime.running other member).1, ?_⟩
    rcases List.mem_cons.mp member with rfl | member
    · exact Nat.le_refl _
    · exact earliest other member
  · intro o member
    exact Nat.le_trans (onTime.ended o member) later
  · have agrees := (tracks.running task List.mem_cons_self).1
    have inUrls : task.url ∈ urls := tracks.url_mem List.mem_cons_self
    exact List.le_max_of_le' 0 (List.mem_map_of_mem inUrls) (punctual.wakes_le agrees)

theorem send {url : String} {attempts : Nat} {others : List Task}
    (onTime : OnTime s urls p (⟨url, attempts, .due, p.now⟩ :: others))
    (counted : p.requestCount url = attempts) :
    OnTime s urls { p with requests := p.requests ++ [⟨url, p.now⟩] }
      (⟨url, attempts + 1, .inFlight (s.probe url (p.requestCount url)).status,
        p.now + (s.probe url (p.requestCount url)).delay⟩ :: others) := by
  have now : p.now = sendTime s.policy s.probe url attempts := by
    obtain ⟨punctual, -⟩ := onTime.running _ List.mem_cons_self
    cases punctual with
    | due time => exact time
  have counts := requestCount_concat p url p.now
  refine ⟨onTime.noneWaits, ?_, ?_, onTime.ended, onTime.reached⟩
  · intro other
    rw [List.filter_append, onTime.sent other, counts]
    by_cases same : url = other
    · rw [if_pos same, ← same, requestsAlone_succ, counted, ← now]
      simp
    · simp [same]
  · intro task member
    rcases List.mem_cons.mp member with rfl | member
    · refine ⟨.inFlight ?_, Nat.le_add_right _ _⟩
      rw [counted, now]
    · exact onTime.running task (List.mem_cons_of_mem _ member)

theorem pause {url : String} {attempts : Nat} {status : Status} {others : List Task}
    (onTime : OnTime s urls p (⟨url, attempts, .inFlight status, p.now⟩ :: others)) :
    OnTime s urls p (⟨url, attempts, .due, p.now + s.policy.backoff⟩ :: others) := by
  refine ⟨onTime.noneWaits, onTime.sent, ?_, onTime.ended, onTime.reached⟩
  intro task member
  rcases List.mem_cons.mp member with rfl | member
  · obtain ⟨punctual, -⟩ := onTime.running _ List.mem_cons_self
    refine ⟨?_, Nat.le_add_right _ _⟩
    cases punctual with
    | inFlight time =>
        refine .due ?_
        rw [sendTime_succ, ← Nat.add_assoc, time]
  · exact onTime.running task (List.mem_cons_of_mem _ member)

theorem finish {url : String} {attempts : Nat} {status : Status} {others : List Task}
    (onTime : OnTime s urls p (⟨url, attempts, .inFlight status, p.now⟩ :: others))
    (agrees : Task.Agrees s ⟨url, attempts, .inFlight status, p.now⟩)
    (final : s.policy.asksAgain attempts status = false) :
    OnTime s urls { p with finished := p.finished ++ [⟨url, status, attempts⟩] } others := by
  refine ⟨onTime.noneWaits, onTime.sent, ?_, ?_, onTime.reached⟩
  · exact fun task member => onTime.running task (List.mem_cons_of_mem _ member)
  · intro o member
    rcases List.mem_append.mp member with member | member
    · exact onTime.ended o member
    · rw [List.mem_singleton.mp member]
      obtain ⟨punctual, -⟩ := onTime.running _ List.mem_cons_self
      cases agrees with
      | inFlight again =>
          cases punctual with
          | inFlight time => exact Nat.le_of_eq ((endTime_of_endsAt ⟨again, final⟩).trans time.symm)

theorem resume {task : Task} (onTime : OnTime s urls p (task :: p.running)) :
    OnTime s urls (p.resume task) (p.resume task).running :=
  OnTime.perm ⟨onTime.noneWaits, onTime.sent, onTime.running, onTime.ended, onTime.reached⟩
    (running_resume_perm p task).symm

/-- While no address waits, no check begins when there is room. -/
theorem fill (limit : Nat) (onTime : OnTime s urls p p.running) :
    OnTime s urls (p.fill limit) (p.fill limit).running := by
  have same : p.fill limit = p := by
    obtain ⟨now, waiting, running, finished, requests⟩ := p
    obtain rfl : waiting = [] := onTime.noneWaits
    simp [Progress.fill]
  rw [same]
  exact onTime

/-- Every tick keeps the checks on time. -/
theorem tick (onTime : OnTime s urls p p.running) (tracks : Tracks s urls p p.running)
    (tick : Tick s p q) : OnTime s urls q q.running := by
  cases tick with
  | @goOn task others running earliest =>
      have taken : Tracks s urls p (task :: others) := tracks.perm running
      have awake := (onTime.perm running).wake taken earliest
      -- A check that is on time has not let its time pass.
      have now : max p.now task.wakes = task.wakes :=
        Nat.max_eq_right ((onTime.perm running).running task List.mem_cons_self).2
      obtain ⟨agrees, counted⟩ := taken.running task List.mem_cons_self
      rw [now]
      obtain ⟨url, attempts, phase, wakes⟩ := task
      cases phase with
      | due => exact (awake.send counted).resume
      | inFlight status =>
          cases asks : s.policy.asksAgain attempts status with
          | true =>
              simp only [Progress.proceed, asks, if_true]
              exact awake.pause.resume
          | false =>
              simp only [Progress.proceed, asks, Bool.false_eq_true, if_false]
              exact (awake.finish agrees asks).fill s.limit

theorem ticks (onTime : OnTime s urls p p.running) (sound : Sound s urls p) (distinct : urls.Nodup)
    (ticks : Ticks s p q) : OnTime s urls q q.running ∧ Sound s urls q := by
  induction ticks with
  | refl => exact ⟨onTime, sound⟩
  | tail _ step ih => exact ⟨ih.1.tick ih.2.tracks step, ih.2.move distinct step.move⟩

/-- If there is room for all checks, the beginning of a run is on time. -/
theorem start (s : Setting) (urls : List String) (room : urls.length ≤ s.limit) :
    OnTime s urls (Progress.start s.limit urls) (Progress.start s.limit urls).running := by
  refine ⟨?_, ?_, ?_, ?_, Nat.zero_le _⟩
  · simpa [Progress.start, Progress.fill] using room
  · intro url
    rfl
  · intro task member
    simp only [Progress.start, Progress.fill, List.nil_append, List.mem_map] at member
    obtain ⟨url, -, rfl⟩ := member
    exact ⟨.due sendTime_zero.symm, Nat.le_refl _⟩
  · intro o member
    cases member

end OnTime

/-! ## The end of a run -/

/-- Checks that are on time and of which none is left have asked for each address at its own times, and end
when the last of them does. -/
theorem OnTime.of_ended {s : Setting} {urls : List String} {p : Progress}
    (onTime : OnTime s urls p p.running) (sound : Sound s urls p) (ended : p.running = []) :
    (∀ url ∈ urls, p.requests.filter (·.url == url) =
      requestsAlone s.policy s.probe url (checkOne s.policy s.probe url).attempts) ∧
      p.now = latestEnd s.policy s.probe urls := by
  have placed := sound.tracks.placed
  rw [onTime.noneWaits, ended, List.map_nil, List.nil_append, List.nil_append] at placed
  have outcome (url : String) (member : url ∈ urls) : ∃ o ∈ p.finished, o.url = url :=
    List.mem_map.mp (placed.mem_iff.mpr member)
  constructor
  · intro url member
    obtain ⟨o, finished, rfl⟩ := outcome url member
    obtain ⟨alone, counted⟩ := sound.tracks.finished o finished
    rw [onTime.sent, counted, ← alone]
  · apply Nat.le_antisymm onTime.reached
    apply List.max_le_of_forall_le
    intro time member
    obtain ⟨url, inUrls, rfl⟩ := List.mem_map.mp member
    obtain ⟨o, finished, rfl⟩ := outcome url inUrls
    exact onTime.ended o finished

/-- There is room for all checks without a cap, and under one that is not below their number. -/
theorem length_le_limitFor {cap : Option Nat} {urls : List String}
    (room : ∀ n, cap = some n → urls.length ≤ n) : urls.length ≤ limitFor cap urls := by
  apply Nat.le_trans _ (Nat.le_max_right _ _)
  cases cap with
  | none => exact Nat.le_refl _
  | some n => exact room n rfl

/-- Where there is room for all checks, every order that the clock allows asks for each address at its own
times and ends with the last of the checks. -/
theorem Ticks.of_ended {cap : Option Nat} {urls : List String} {p : Progress} (distinct : urls.Nodup)
    (room : ∀ n, cap = some n → urls.length ≤ n)
    (reached : Ticks ⟨policy, probe, limitFor cap urls⟩ (Progress.start (limitFor cap urls) urls) p)
    (ended : p.running = []) :
    (∀ url ∈ urls, p.requests.filter (·.url == url) =
      requestsAlone policy probe url (checkOne policy probe url).attempts) ∧
      p.now = latestEnd policy probe urls := by
  let s : Setting := ⟨policy, probe, limitFor cap urls⟩
  have onTime := OnTime.start s urls (length_le_limitFor room)
  obtain ⟨later, sound⟩ := onTime.ticks (Sound.start s urls) distinct reached
  exact later.of_ended sound ended

theorem now_runAll_singleton (policy : RetryPolicy) (probe : Probe) (url : String) :
    (runAll policy probe none [url]).now = endTime policy probe url := by
  have alone : [url].Nodup := List.pairwise_singleton _ url
  have room : ∀ n, none = some n → [url].length ≤ n := fun n impossible => nomatch impossible
  obtain ⟨-, now⟩ := Ticks.of_ended alone room (ticks_run _ _) (running_run _ _)
  exact now.trans (Nat.max_zero _)

/-- If there is room for all checks, each address is asked for at times that its own answers and pauses give,
in every order that the clock allows, and all checks end when the last of them would end alone. Neither the
other addresses nor their answers make a difference. -/
theorem requests_at_own_times (policy : RetryPolicy) (probe : Probe) (cap : Option Nat)
    (urls : List String) (distinct : urls.Nodup) (room : ∀ n, cap = some n → urls.length ≤ n) :
    let s : Setting := ⟨policy, probe, limitFor cap urls⟩
    let begun := Progress.start s.limit urls
    (∀ p, Ticks s begun p → p.running = [] →
      (∀ url ∈ urls, p.requests.filter (·.url == url) =
        (List.range (checkOne policy probe url).attempts).map fun j =>
          ⟨url, ((List.range j).map fun k => (probe url k).delay + policy.backoff).sum⟩) ∧
      p.now = (urls.map (endTime policy probe)).foldr max 0) ∧
    Ticks s begun (runAll policy probe cap urls) ∧ (runAll policy probe cap urls).running = [] ∧
    (∀ url, (runAll policy probe none [url]).now = endTime policy probe url) ∧
    ∀ (otherCap : Option Nat) (otherProbe : Probe) (addresses : List String) (url : String),
      addresses.Nodup → (∀ n, otherCap = some n → addresses.length ≤ n) →
        url ∈ urls → url ∈ addresses → (∀ k, probe url k = otherProbe url k) →
          (runAll policy probe cap urls).requests.filter (·.url == url) =
            (runAll policy otherProbe otherCap addresses).requests.filter (·.url == url) := by
  intro s begun
  have reached : Ticks s begun (runAll policy probe cap urls) := ticks_run s begun
  refine ⟨?_, reached, running_run s begun, now_runAll_singleton policy probe, ?_⟩
  · exact fun p ticks ended => ticks.of_ended distinct room ended
  · intro otherCap otherProbe addresses url otherDistinct otherRoom inUrls inAddresses same
    let t : Setting := ⟨policy, otherProbe, limitFor otherCap addresses⟩
    have otherReached : Ticks t (Progress.start t.limit addresses) (runAll policy otherProbe otherCap addresses) :=
      ticks_run t _
    obtain ⟨sent, -⟩ := reached.of_ended distinct room (running_run s begun)
    obtain ⟨otherSent, -⟩ := otherReached.of_ended otherDistinct otherRoom (running_run t _)
    rw [sent url inUrls, requestsAlone_congr same]
    exact (otherSent url inAddresses).symm

/-- An address at which a server asks once for a pause, and one that answers at once. -/
theorem requests_at_own_times_of_pause :
    let policy : RetryPolicy := ⟨20000, 6⟩
    let probe : Probe := fun url earlier =>
      if url = "https://a.test" ∧ earlier = 0 then ⟨.code 429, 7⟩ else ⟨.code 200, 1⟩
    let urls := ["https://b.test", "https://a.test"]
    let ended := runAll policy probe none urls
    urls.Nodup ∧
    ended.requests.filter (·.url == "https://b.test") = [⟨"https://b.test", 0⟩] ∧
    ended.requests.filter (·.url == "https://a.test") =
      [⟨"https://a.test", 0⟩, ⟨"https://a.test", 20007⟩] ∧
    ended.now = 20008 := by
  intro policy probe urls ended
  have distinct : urls.Nodup := by decide
  have room : ∀ n, none = some n → urls.length ≤ n := fun n impossible => nomatch impossible
  obtain ⟨onTime, reached, finished, -⟩ := requests_at_own_times policy probe none urls distinct room
  obtain ⟨sent, now⟩ := onTime ended reached finished
  refine ⟨distinct, ?_, ?_, ?_⟩
  · exact (sent "https://b.test" (by decide)).trans (by decide)
  · exact (sent "https://a.test" (by decide)).trans (by decide)
  · exact now.trans (by decide)

end LinkGate.Check
