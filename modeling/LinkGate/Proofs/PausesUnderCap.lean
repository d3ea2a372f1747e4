import LinkGate.Proofs.FirstRequests

/-!
# Pauses under a cap

A check keeps its slot while it waits between two requests. At a time at which everything that was due has
happened, the slots are therefore shared by requests that are not answered and checks that pause, and the next
address is asked for when a check ends, not when one begins to pause.
-/

namespace LinkGate.Check

variable {s : Setting} {urls : List String} {p : Progress} {turns : List Turn}

instance (p : Progress) : Decidable p.Settled :=
  inferInstanceAs (Decidable (∀ task ∈ p.running, p.now < task.wakes))

/-! ## Settled progress -/

theorem isFresh_of_settled (sound : Sound s urls p) (slots : Slots s p.now p.running)
    (settled : p.Settled) : ∀ task ∈ p.running, task.isFresh = false := by
  intro task running
  have agrees := (sound.tracks.running task running).1
  refine Bool.eq_false_iff.mpr fun fresh => ?_
  have silent : task.isAsking = false := by
    refine Bool.eq_false_iff.mpr fun asking => ?_
    rw [agrees.isFresh_of_isAsking asking] at fresh
    contradiction
  have due := slots.timely task running silent
  rw [if_pos fresh] at due
  exact absurd (settled task running) (Nat.not_lt.mpr due)

/-- When everything has happened that is due, each check waits for an answer or pauses. -/
theorem inFlight_add_pausing (sound : Sound s urls p) (slots : Slots s p.now p.running)
    (settled : p.Settled) : p.inFlight + p.pausing = p.running.length := by
  have pausing : p.pausing = p.running.countP fun task => ¬ task.isAsking = true := by
    refine List.countP_congr fun task running => ?_
    simp [Task.isPausing, isFresh_of_settled sound slots settled task running]
  rw [Progress.inFlight, pausing]
  exact (List.length_eq_countP_add_countP Task.isAsking).symm

/-- When everything has happened that is due, an address that has not been asked for waits. -/
theorem mem_waiting_of_settled (sound : Sound s urls p) (slots : Slots s p.now p.running)
    (settled : p.Settled) {url : String} (member : url ∈ urls) (unasked : p.requestCount url = 0) :
    url ∈ p.waiting := by
  rcases sound.tracks.requestCount_eq_zero member unasked with waits | ⟨task, running, -, fresh⟩
  · exact waits
  · rw [isFresh_of_settled sound slots settled task running] at fresh
    contradiction

/-- While an address waits, all slots are taken. -/
theorem length_running_eq (sound : Sound s urls p) (slots : Slots s p.now p.running)
    (waits : p.waiting ≠ []) : p.running.length = s.limit :=
  Nat.le_antisymm slots.within (sound.full waits)

/-- When everything has happened that is due, as many addresses have been asked for as there are slots and
outcomes. -/
theorem asked_eq_take (inLine : InLine urls turns p) (sound : Sound s urls p)
    (slots : Slots s p.now p.running) (distinct : urls.Nodup) (settled : p.Settled) :
    p.asked urls = urls.take (s.limit + p.finished.length) := by
  have line := inLine.line
  have none : p.running.filter Task.isFresh = [] := by
    refine List.filter_eq_nil_iff.mpr fun task running => ?_
    rw [isFresh_of_settled sound slots settled task running]
    exact Bool.false_ne_true
  rw [none, List.map_nil, List.nil_append, ← inLine.asked_eq sound distinct] at line
  have places := sound.tracks.placed.length_eq
  have asked := congrArg List.length line
  simp only [List.length_append, List.length_map] at places asked
  by_cases waits : p.waiting = []
  · have within := slots.within
    rw [waits, List.append_nil] at line
    rw [waits, List.length_nil] at places
    rw [line, List.take_of_length_le (by omega)]
  · have taken := length_running_eq sound slots waits
    have length : (p.asked urls).length = s.limit + p.finished.length := by omega
    conv_rhs => rw [← line, ← length, List.take_left]

/-! ## Checks that pause -/

theorem Task.Agrees.of_isPausing {task : Task} (agrees : task.Agrees s)
    (pausing : task.isPausing = true) :
    (s.probe task.url 0).status = .code Status.rateLimited ∧ 1 < s.policy.budget := by
  cases agrees with
  | @due url attempts wakes again =>
      cases attempts with
      | zero => contradiction
      | succ answered => exact RetryPolicy.asksAgain_eq_true_iff.mp (again 0 (Nat.succ_pos answered))
  | inFlight again => contradiction

/-- A pause has a length, follows an answer and comes before another request. -/
theorem exists_of_pausing (sound : Sound s urls p) (slots : Slots s p.now p.running)
    (settled : p.Settled) (pausing : 0 < p.pausing) :
    0 < s.policy.backoff ∧ 1 < s.policy.budget ∧
      ∃ url ∈ urls, (s.probe url 0).status = .code Status.rateLimited := by
  obtain ⟨task, running, pauses⟩ := List.countP_pos_iff.mp pausing
  obtain ⟨limited, allowed⟩ := (sound.tracks.running task running).1.of_isPausing pauses
  have silent : task.isAsking = false ∧ task.isFresh = false := by
    simpa [Task.isPausing] using pauses
  have due := slots.timely task running silent.1
  have later := settled task running
  rw [silent.2] at due
  refine ⟨?_, allowed, task.url, sound.tracks.url_mem running, limited⟩
  simp only [Bool.false_eq_true, if_false] at due
  omega

/-- Different addresses under a cap, at a time at which everything has happened that is due. The addresses that
have been asked for are the first ones, one for each slot and one for each outcome. While there are others, requests
that are not answered and checks that pause make up the cap, so that there are as many requests as it allows
exactly if no check pauses. None does without a backoff, with a single request for each address, or if the server
asks for no pause at first. -/
theorem inFlight_eq_cap_iff_none_pauses (policy : RetryPolicy) (probe : Probe) (n : Nat)
    (urls : List String) (distinct : urls.Nodup) :
    let s : Setting := ⟨policy, probe, limitFor (some n) urls⟩
    ∀ turns p, History s (Progress.start s.limit urls) turns p → p.Settled →
      p.asked urls = urls.take (max 1 n + p.finished.length) ∧
      ((∃ url ∈ urls, p.requestCount url = 0) →
        p.inFlight + p.pausing = max 1 n ∧ (p.inFlight = max 1 n ↔ p.pausing = 0)) ∧
      (0 < p.pausing → 0 < policy.backoff ∧ 1 < policy.maxAttempts ∧
        ∃ url ∈ urls, (probe url 0).status = .code 429) := by
  intro s turns p history settled
  have soundStart := Sound.start s urls
  have sound := soundStart.moves distinct history.moves
  have slots := (Slots.start s urls).moves soundStart distinct history.moves
  have inLine := (InLine.start s.limit urls).history soundStart distinct history
  refine ⟨asked_eq_take inLine sound slots distinct settled, ?_, ?_⟩
  · rintro ⟨url, member, unasked⟩
    have waits := List.ne_nil_of_mem (mem_waiting_of_settled sound slots settled member unasked)
    have taken : p.running.length = max 1 n := length_running_eq sound slots waits
    have shared := (inFlight_add_pausing sound slots settled).trans taken
    exact ⟨shared, by omega⟩
  · intro pausing
    obtain ⟨backoff, allowed, limited⟩ := exists_of_pausing sound slots settled pausing
    have most : policy.budget = max 1 policy.maxAttempts := rfl
    change 1 < policy.budget at allowed
    exact ⟨backoff, by omega, limited⟩

/-- One of two slots is taken by a check that pauses while a third address waits. -/
theorem inFlight_eq_cap_iff_none_pauses_of_two_slots :
    let probe : Probe := fun url earlier =>
      if url = "https://a.test" ∧ earlier = 0 then ⟨.code 429, 5⟩ else ⟨.code 200, 7⟩
    let urls := ["https://a.test", "https://b.test", "https://c.test"]
    let s : Setting := ⟨⟨20, 6⟩, probe, limitFor (some 2) urls⟩
    let turns : List Turn :=
      [.request "https://a.test" 1, .request "https://b.test" 1, .pause "https://a.test" 20]
    let p : Progress :=
      { now := 5
        waiting := ["https://c.test"]
        running := [⟨"https://b.test", 1, .inFlight (.code 200), 7⟩, ⟨"https://a.test", 1, .due, 25⟩]
        finished := []
        requests := [⟨"https://a.test", 0⟩, ⟨"https://b.test", 0⟩] }
    urls.Nodup ∧ History s (Progress.start s.limit urls) turns p ∧ p.Settled ∧
      (∃ url ∈ urls, p.requestCount url = 0) ∧ p.inFlight + p.pausing = 2 ∧ p.inFlight ≠ 2 := by
  intro probe urls s turns p
  have distinct : urls.Nodup := by decide
  have history : History s (Progress.start s.limit urls) turns p :=
    .next (.request rfl rfl rfl) (.next (.request rfl rfl rfl) (.next (.pause rfl rfl rfl) (.done _)))
  have settled : p.Settled := by decide
  have unasked : ∃ url ∈ urls, p.requestCount url = 0 := by decide
  obtain ⟨-, shared, -⟩ :=
    inFlight_eq_cap_iff_none_pauses ⟨20, 6⟩ probe 2 urls distinct turns p history settled
  obtain ⟨sum, full⟩ := shared unasked
  exact ⟨distinct, history, settled, unasked, sum, fun all => absurd (full.mp all) (by decide)⟩

/-- The only slot is taken by a check that pauses: no request is in flight while an address has not been asked
for, and it is asked for when the check ends, not when its pause begins. -/
theorem pausing_check_keeps_slot :
    let probe : Probe := fun url earlier =>
      if url = "https://a.test" ∧ earlier = 0 then ⟨.code 429, 5⟩ else ⟨.code 200, 7⟩
    let urls := ["https://a.test", "https://b.test"]
    let s : Setting := ⟨⟨20, 6⟩, probe, limitFor (some 1) urls⟩
    let begun := Progress.start s.limit urls
    let p : Progress :=
      ⟨5, ["https://b.test"], [⟨"https://a.test", 1, .due, 25⟩], [], [⟨"https://a.test", 0⟩]⟩
    History s begun [.request "https://a.test" 1, .pause "https://a.test" 20] p ∧ p.Settled ∧
      p.requestCount "https://b.test" = 0 ∧ p.inFlight = 0 ∧
      (runAll ⟨20, 6⟩ probe (some 1) urls).requests =
        [⟨"https://a.test", 0⟩, ⟨"https://a.test", 25⟩, ⟨"https://b.test", 32⟩] := by
  intro probe urls s begun p
  have first : History s begun [.request "https://a.test" 1, .pause "https://a.test" 20] p :=
    .next (.request rfl rfl rfl) (.next (.pause rfl rfl rfl) (.done _))
  let ended : Progress :=
    { now := 39
      waiting := []
      running := []
      finished := [⟨"https://a.test", .code 200, 2⟩, ⟨"https://b.test", .code 200, 1⟩]
      requests := [⟨"https://a.test", 0⟩, ⟨"https://a.test", 25⟩, ⟨"https://b.test", 32⟩] }
  have rest : History s p [.request "https://a.test" 2, .outcome ⟨"https://a.test", .code 200, 2⟩,
      .request "https://b.test" 1, .outcome ⟨"https://b.test", .code 200, 1⟩] ended :=
    .next (.request rfl rfl rfl) (.next (.outcome rfl rfl rfl)
      (.next (.request rfl rfl rfl) (.next (.outcome rfl rfl rfl) (.done _))))
  have run : ended = runAll ⟨20, 6⟩ probe (some 1) urls := (first.append rest).eq_run rfl
  exact ⟨first, by decide, rfl, rfl, run ▸ rfl⟩

end LinkGate.Check
