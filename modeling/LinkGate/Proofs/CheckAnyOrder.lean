import LinkGate.Check.Schedule
import LinkGate.Proofs.ByteOrder
import LinkGate.Proofs.CheckAlone
import Mathlib.Logic.Relation

/-!
# Checks in any order

Side by side, checks may go on in any order and at any time. `Move` lets any running check make its next
step; the steps that the clock chooses are among these moves. `Tracks` says what every order keeps: each
address is in exactly one place, and what its check holds is what its own answers say. When no check is
left, every address has the outcome that it has when it is checked alone.
-/

namespace LinkGate.Check

/-- One move of the checks: one of them, whichever it is, goes on at a time that has not passed. -/
inductive Move (s : Setting) (p : Progress) : Progress → Prop where
  | goOn {task : Task} {others : List Task} {time : Nat}
      (running : p.running.Perm (task :: others)) (later : p.now ≤ time) :
      Move s p (Progress.proceed s { p with now := time, running := others } task)

abbrev Moves (s : Setting) : Progress → Progress → Prop :=
  Relation.ReflTransGen (Move s)

/-! ## The clock makes moves -/

theorem takeEarliest_perm {tasks others : List Task} {task : Task}
    (taken : takeEarliest tasks = some (task, others)) : tasks.Perm (task :: others) := by
  induction tasks generalizing task others with
  | nil => simp [takeEarliest] at taken
  | cons first rest ih =>
      unfold takeEarliest at taken
      split at taken
      · next none =>
          simp only [Option.some.injEq, Prod.mk.injEq] at taken
          obtain ⟨rfl, rfl⟩ := taken
          rw [Progress.takeEarliest_eq_none none]
      · next other remaining found =>
          split at taken <;> simp only [Option.some.injEq, Prod.mk.injEq] at taken <;>
            obtain ⟨rfl, rfl⟩ := taken
          · exact .refl _
          · exact ((ih found).cons first).trans (.swap _ _ _)

theorem move_of_step {s : Setting} {p q : Progress} (step : p.step? s = some q) : Move s p q := by
  simp only [Progress.step?, Option.map_eq_some_iff] at step
  obtain ⟨⟨task, others⟩, taken, rfl⟩ := step
  exact .goOn (takeEarliest_perm taken) (Nat.le_max_left _ _)

theorem moves_run (s : Setting) (p : Progress) : Moves s p (p.run s) := by
  fun_induction Progress.run s p with
  | case1 p stopped => exact .refl
  | case2 p q step ih => exact .head (move_of_step step) ih

/-- The clock stops exactly when no check is under way. -/
theorem step?_eq_none_iff {s : Setting} {p : Progress} : p.step? s = none ↔ p.running = [] := by
  rw [Progress.step?, Option.map_eq_none_iff]
  constructor
  · exact Progress.takeEarliest_eq_none
  · intro ended
    rw [ended]
    rfl

theorem running_run (s : Setting) (p : Progress) : (p.run s).running = [] := by
  fun_induction Progress.run s p with
  | case1 p stopped => exact step?_eq_none_iff.mp stopped
  | case2 p q step ih => exact ih

/-! ## Every order comes to its end -/

theorem tasksBudget_perm (policy : RetryPolicy) {first second : List Task}
    (same : first.Perm second) : Progress.tasksBudget policy first = Progress.tasksBudget policy second := by
  induction same with
  | nil => rfl
  | cons task _ ih => rw [Progress.tasksBudget, Progress.tasksBudget, ih]
  | swap a b rest =>
      simp only [Progress.tasksBudget]
      omega
  | trans _ _ ih₁ ih₂ => exact ih₁.trans ih₂

/-- Every move uses up some of the budget. -/
theorem budget_move_lt {s : Setting} {p q : Progress} (move : Move s p q) :
    q.budget s.policy < p.budget s.policy := by
  cases move with
  | @goOn task others time running later =>
      refine Nat.lt_of_lt_of_eq (Progress.budget_proceed_lt s _ task) ?_
      simp only [Progress.budget, tasksBudget_perm s.policy running, Progress.tasksBudget]
      omega

/-- No order of moves goes on for ever. -/
theorem no_endless_moves (s : Setting) (order : Nat → Progress) :
    ¬ ∀ n, Move s (order n) (order (n + 1)) := by
  intro endless
  have bounded : ∀ n, n + (order n).budget s.policy ≤ (order 0).budget s.policy := by
    intro n
    induction n with
    | zero => omega
    | succ n ih =>
        have less := budget_move_lt (endless n)
        omega
  have beyond := bounded ((order 0).budget s.policy + 1)
  omega

/-! ## What a check holds -/

/-- A check whose requests so far were all answered by a wish for another one, the one under way
excepted. -/
inductive Task.Agrees (s : Setting) : Task → Prop where
  | due {url : String} {attempts wakes : Nat}
      (again : ∀ k, k < attempts → s.policy.asksAgain (k + 1) (s.probe url k).status = true) :
      Agrees s ⟨url, attempts, .due, wakes⟩
  | inFlight {url : String} {answered wakes : Nat}
      (again : ∀ k, k < answered → s.policy.asksAgain (k + 1) (s.probe url k).status = true) :
      Agrees s ⟨url, answered + 1, .inFlight (s.probe url answered).status, wakes⟩

/-- What is true of the checks at any moment, `tasks` being those that have begun and not ended. -/
structure Tracks (s : Setting) (urls : List String) (p : Progress) (tasks : List Task) : Prop where
  /-- Each address waits, is being checked or has an outcome. -/
  placed : (p.waiting ++ tasks.map Task.url ++ p.finished.map Outcome.url).Perm urls
  unasked : ∀ url ∈ p.waiting, p.requestCount url = 0
  running : ∀ task ∈ tasks, task.Agrees s ∧ p.requestCount task.url = task.attempts
  finished : ∀ o ∈ p.finished, o = checkOne s.policy s.probe o.url ∧ p.requestCount o.url = o.attempts

def Full (s : Setting) (p : Progress) : Prop :=
  p.waiting ≠ [] → s.limit ≤ p.running.length

theorem requestCount_concat (p : Progress) (url : String) (time : Nat) (other : String) :
    Progress.requestCount { p with requests := p.requests ++ [⟨url, time⟩] } other =
      p.requestCount other + if url = other then 1 else 0 := by
  simp [Progress.requestCount, List.countP_append, List.countP_singleton]

namespace Tracks

variable {s : Setting} {urls : List String} {p : Progress}

theorem perm {first second : List Task} (tracks : Tracks s urls p first)
    (same : first.Perm second) : Tracks s urls p second where
  placed := ((same.symm.map Task.url).append_left p.waiting |>.append_right _).trans tracks.placed
  unasked := tracks.unasked
  running := fun task member => tracks.running task (same.mem_iff.mpr member)
  finished := tracks.finished

theorem url_mem {tasks : List Task} {task : Task} (tracks : Tracks s urls p tasks)
    (member : task ∈ tasks) : task.url ∈ urls := by
  apply tracks.placed.subset
  apply List.mem_append_left
  apply List.mem_append_right
  exact List.mem_map_of_mem member

/-- The address of a check under way is in no other place. -/
theorem apart {task : Task} {others : List Task} (tracks : Tracks s urls p (task :: others))
    (distinct : urls.Nodup) :
    task.url ∉ p.waiting ∧ (∀ other ∈ others, other.url ≠ task.url) ∧
      ∀ o ∈ p.finished, o.url ≠ task.url := by
  have nodup := (tracks.placed.nodup_iff).mpr distinct
  have front : (task.url :: (p.waiting ++ (others.map Task.url ++ p.finished.map Outcome.url))).Nodup := by
    refine (List.Perm.nodup_iff ?_).mpr nodup
    rw [List.map_cons, List.append_assoc, List.cons_append]
    exact List.perm_middle.symm
  have absent := (List.nodup_cons.mp front).1
  simp only [List.mem_append, List.mem_map, not_or, not_exists, not_and] at absent
  exact ⟨absent.1, absent.2.1, absent.2.2⟩

theorem send {url : String} {attempts wakes time : Nat} {others : List Task}
    (tracks : Tracks s urls p (⟨url, attempts, .due, wakes⟩ :: others)) (distinct : urls.Nodup) :
    Tracks s urls { p with requests := p.requests ++ [⟨url, time⟩] }
      (⟨url, attempts + 1, .inFlight (s.probe url (p.requestCount url)).status,
        time + (s.probe url (p.requestCount url)).delay⟩ :: others) := by
  obtain ⟨notWaiting, notOther, notFinished⟩ := tracks.apart distinct
  have counts := requestCount_concat p url time
  obtain ⟨agrees, counted⟩ := tracks.running _ List.mem_cons_self
  have again : ∀ k, k < attempts → s.policy.asksAgain (k + 1) (s.probe url k).status = true := by
    cases agrees with
    | due again => exact again
  refine ⟨tracks.placed, ?_, ?_, ?_⟩
  · intro other member
    rw [counts, if_neg (fun same : url = other => notWaiting (same ▸ member))]
    exact tracks.unasked other member
  · intro task member
    rcases List.mem_cons.mp member with rfl | member
    · dsimp only at counted ⊢
      rw [counts, if_pos rfl, counted]
      exact ⟨.inFlight again, rfl⟩
    · rw [counts, if_neg (fun same => notOther task member same.symm)]
      exact tracks.running task (List.mem_cons_of_mem _ member)
  · intro o member
    rw [counts, if_neg (fun same => notFinished o member same.symm)]
    exact tracks.finished o member

theorem pause {url : String} {attempts wakes later : Nat} {status : Status} {others : List Task}
    (tracks : Tracks s urls p (⟨url, attempts, .inFlight status, wakes⟩ :: others))
    (asks : s.policy.asksAgain attempts status = true) :
    Tracks s urls p (⟨url, attempts, .due, later⟩ :: others) := by
  refine ⟨tracks.placed, tracks.unasked, ?_, tracks.finished⟩
  intro task member
  rcases List.mem_cons.mp member with rfl | member
  · obtain ⟨agrees, counted⟩ := tracks.running _ List.mem_cons_self
    refine ⟨?_, counted⟩
    cases agrees with
    | @inFlight _ answered _ again =>
        refine .due fun k before => ?_
        rcases Nat.lt_or_eq_of_le (Nat.le_of_lt_succ before) with earlier | rfl
        · exact again k earlier
        · exact asks
  · exact tracks.running task (List.mem_cons_of_mem _ member)

theorem finish {url : String} {attempts wakes : Nat} {status : Status} {others : List Task}
    (tracks : Tracks s urls p (⟨url, attempts, .inFlight status, wakes⟩ :: others))
    (final : s.policy.asksAgain attempts status = false) :
    Tracks s urls { p with finished := p.finished ++ [⟨url, status, attempts⟩] } others := by
  obtain ⟨agrees, counted⟩ := tracks.running _ List.mem_cons_self
  have alone : (⟨url, status, attempts⟩ : Outcome) = checkOne s.policy s.probe url := by
    cases agrees with
    | inFlight again => exact (checkOne_of_endsAt ⟨again, final⟩).symm
  refine ⟨List.Perm.trans ?_ tracks.placed, tracks.unasked, ?_, ?_⟩
  · rw [List.map_append, List.map_singleton, List.map_cons, List.append_assoc, List.append_assoc]
    refine List.Perm.append_left p.waiting ?_
    rw [← List.append_assoc, List.cons_append]
    exact List.perm_append_singleton _ _
  · exact fun task member => tracks.running task (List.mem_cons_of_mem _ member)
  · intro o member
    rcases List.mem_append.mp member with member | member
    · exact tracks.finished o member
    · rw [List.mem_singleton.mp member]
      exact ⟨alone, counted⟩

theorem fill (limit : Nat) (tracks : Tracks s urls p p.running) :
    Tracks s urls (p.fill limit) (p.fill limit).running := by
  refine ⟨(List.Perm.append_right _ ?_).trans tracks.placed, ?_, ?_, tracks.finished⟩
  · -- The addresses at the front of the list go behind those that are being checked.
    simp only [Progress.fill, List.map_append, List.map_map]
    have begun : Task.url ∘ Task.begin p.now = id := rfl
    rw [begun, List.map_id]
    refine List.perm_append_comm.trans ?_
    rw [List.append_assoc, List.take_append_drop]
    exact List.perm_append_comm
  · intro url member
    exact tracks.unasked url (List.mem_of_mem_drop member)
  · intro task member
    rcases List.mem_append.mp member with member | member
    · exact tracks.running task member
    · obtain ⟨url, waiting, rfl⟩ := List.mem_map.mp member
      refine ⟨.due fun k before => absurd before (Nat.not_lt_zero k), ?_⟩
      exact tracks.unasked url (List.mem_of_mem_take waiting)

end Tracks

theorem running_resume_perm (p : Progress) (task : Task) :
    (p.resume task).running.Perm (task :: p.running) := by
  unfold Progress.resume
  split
  · exact .refl _
  · exact List.perm_append_singleton _ _

theorem Tracks.resume {s : Setting} {urls : List String} {p : Progress} {task : Task}
    (tracks : Tracks s urls p (task :: p.running)) :
    Tracks s urls (p.resume task) (p.resume task).running :=
  Tracks.perm ⟨tracks.placed, tracks.unasked, tracks.running, tracks.finished⟩
    (running_resume_perm p task).symm

/-- After beginning checks, no address waits while there is room. -/
theorem full_fill (s : Setting) (p : Progress) : Full s (p.fill s.limit) := by
  intro waits
  simp only [Progress.fill, ne_eq, List.drop_eq_nil_iff] at waits ⊢
  simp only [List.length_append, List.length_map, List.length_take]
  omega

theorem full_resume {s : Setting} {p : Progress} {task : Task}
    (full : p.waiting ≠ [] → s.limit ≤ p.running.length + 1) : Full s (p.resume task) := by
  intro waits
  rw [(running_resume_perm p task).length_eq, List.length_cons]
  exact full waits

/-! ## What every move keeps -/

structure Sound (s : Setting) (urls : List String) (p : Progress) : Prop where
  tracks : Tracks s urls p p.running
  full : Full s p

namespace Sound

variable {s : Setting} {urls : List String} {p q : Progress}

theorem start (s : Setting) (urls : List String) : Sound s urls (Progress.start s.limit urls) := by
  refine ⟨Tracks.fill s.limit ⟨?_, ?_, ?_, ?_⟩, full_fill s _⟩
  · simp
  · intro url _
    rfl
  · intro task member
    cases member
  · intro o member
    cases member

/-- Every move keeps the checks sound. -/
theorem move (sound : Sound s urls p) (distinct : urls.Nodup) (move : Move s p q) :
    Sound s urls q := by
  cases move with
  | @goOn task others time running later =>
      -- The check that goes on may be brought to the front, as the order of the others does not matter.
      have taken : Tracks s urls p (task :: others) := sound.tracks.perm running
      have room : p.waiting ≠ [] → s.limit ≤ others.length + 1 := by
        intro waits
        rw [← List.length_cons, ← running.length_eq]
        exact sound.full waits
      obtain ⟨url, attempts, phase, wakes⟩ := task
      have here : Tracks s urls { p with now := time, running := others }
          (⟨url, attempts, phase, wakes⟩ :: others) :=
        ⟨taken.placed, taken.unasked, taken.running, taken.finished⟩
      cases phase with
      | due => exact ⟨(here.send distinct).resume, full_resume room⟩
      | inFlight status =>
          cases asks : s.policy.asksAgain attempts status with
          | true =>
              simp only [Progress.proceed, asks, if_true]
              exact ⟨(here.pause asks).resume, full_resume room⟩
          | false =>
              simp only [Progress.proceed, asks, Bool.false_eq_true, if_false]
              exact ⟨(here.finish asks).fill s.limit, full_fill s _⟩

theorem moves (sound : Sound s urls p) (distinct : urls.Nodup) (moves : Moves s p q) :
    Sound s urls q := by
  induction moves with
  | refl => exact sound
  | tail _ step ih => exact ih.move distinct step

end Sound

/-! ## The end of a run -/

/-- The outcomes of some addresses, each checked alone, in the order of the bytes of the addresses. -/
structure OutcomesAlone (policy : RetryPolicy) (probe : Probe) (urls : List String)
    (outcomes : List Outcome) : Prop where
  once : (outcomes.map Outcome.url).Perm urls
  increasing : outcomes.Pairwise fun a b => Text.bytes a.url < Text.bytes b.url
  alone : ∀ o ∈ outcomes, o = checkOne policy probe o.url

theorem sortOutcomes_perm (outcomes : List Outcome) : (sortOutcomes outcomes).Perm outcomes :=
  List.mergeSort_perm outcomes _

theorem pairwise_lt_sortOutcomes {outcomes : List Outcome}
    (distinct : (outcomes.map Outcome.url).Nodup) :
    (sortOutcomes outcomes).Pairwise fun a b => a.url < b.url := by
  have ordered : (sortOutcomes outcomes).Pairwise fun a b => decide (a.url ≤ b.url) = true := by
    refine List.pairwise_mergeSort ?_ ?_ outcomes
    · intro a b c first second
      exact decide_eq_true (le_trans (of_decide_eq_true first) (of_decide_eq_true second))
    · intro a b
      simp only [Bool.or_eq_true, decide_eq_true_eq]
      exact le_total a.url b.url
  have different : (sortOutcomes outcomes).Pairwise fun a b => a.url ≠ b.url := by
    have nodup := ((sortOutcomes_perm outcomes).map Outcome.url).nodup_iff.mpr distinct
    exact List.pairwise_map.mp nodup
  exact ordered.imp₂ (fun _ _ before unequal => lt_of_le_of_ne (of_decide_eq_true before) unequal)
    different

/-- The outcome of an address depends on the ends of its requests only. -/
theorem checkOne_congr (policy : RetryPolicy) {probe other : Probe} {url : String}
    (same : ∀ k, (probe url k).status = (other url k).status) :
    checkOne policy probe url = checkOne policy other url := by
  simp only [checkOne, same]

namespace OutcomesAlone

variable {policy : RetryPolicy} {probe other : Probe} {urls addresses : List String}
  {outcomes others : List Outcome}

theorem pairwise_lt (first : OutcomesAlone policy probe urls outcomes) :
    (outcomes.map Outcome.url).Pairwise (· < ·) :=
  List.pairwise_map.mpr (first.increasing.imp fun less => Text.lt_iff_bytes_lt.mpr less)

theorem eq_map (first : OutcomesAlone policy probe urls outcomes) :
    outcomes = (outcomes.map Outcome.url).map (checkOne policy probe) := by
  rw [List.map_map]
  conv_lhs => rw [← List.map_id outcomes]
  exact List.map_congr_left first.alone

/-- The addresses and the ends of their requests fix the outcomes. -/
theorem eq_of_perm (first : OutcomesAlone policy probe urls outcomes)
    (second : OutcomesAlone policy other addresses others) (sameUrls : urls.Perm addresses)
    (sameEnds : ∀ url k, (probe url k).status = (other url k).status) : outcomes = others := by
  have sameAddresses : outcomes.map Outcome.url = others.map Outcome.url :=
    List.Perm.eq_of_pairwise (fun a b _ _ before after => absurd before (lt_asymm after))
      first.pairwise_lt second.pairwise_lt
      (first.once.trans (sameUrls.trans second.once.symm))
  rw [first.eq_map, second.eq_map, sameAddresses]
  exact List.map_congr_left fun url _ => checkOne_congr policy (sameEnds url)

end OutcomesAlone

theorem Sound.waiting_eq_nil {s : Setting} {urls : List String} {p : Progress}
    (sound : Sound s urls p) (room : 0 < s.limit) (ended : p.running = []) : p.waiting = [] := by
  by_contra waits
  have full := sound.full waits
  rw [ended, List.length_nil] at full
  omega

/-- Sound checks of which none is under way have all outcomes. -/
theorem Sound.outcomesAlone {s : Setting} {urls : List String} {p : Progress}
    (sound : Sound s urls p) (distinct : urls.Nodup) (room : 0 < s.limit) (ended : p.running = []) :
    OutcomesAlone s.policy s.probe urls (sortOutcomes p.finished) := by
  have noneWaits := sound.waiting_eq_nil room ended
  have placed := sound.tracks.placed
  rw [noneWaits, ended, List.map_nil, List.nil_append, List.nil_append] at placed
  refine ⟨((sortOutcomes_perm _).map _).trans placed, ?_, ?_⟩
  · exact (pairwise_lt_sortOutcomes (placed.nodup_iff.mpr distinct)).imp
      fun less => Text.lt_iff_bytes_lt.mp less
  · intro o member
    exact (sound.tracks.finished o ((sortOutcomes_perm _).mem_iff.mp member)).1

/-- Checks run side by side under any cap have the outcomes that the addresses have when each is
checked alone. -/
theorem checkAll_outcomesAlone (policy : RetryPolicy) (probe : Probe) (cap : Option Nat)
    {urls : List String} (distinct : urls.Nodup) :
    OutcomesAlone policy probe urls (checkAll policy probe cap urls) := by
  let s : Setting := ⟨policy, probe, limitFor cap urls⟩
  have sound := (Sound.start s urls).moves distinct (moves_run s (Progress.start s.limit urls))
  exact sound.outcomesAlone distinct (Nat.le_max_left _ _) (running_run s _)

/-- The outcomes of addresses in increasing order are in the order of the addresses. -/
theorem checkAll_of_increasing (policy : RetryPolicy) (probe : Probe) (cap : Option Nat)
    {urls : List String} (increasing : urls.Pairwise (· < ·)) :
    checkAll policy probe cap urls = urls.map (checkOne policy probe) := by
  have checked := checkAll_outcomesAlone policy probe cap (increasing.imp ne_of_lt)
  have sameUrls : (checkAll policy probe cap urls).map Outcome.url = urls :=
    List.Perm.eq_of_pairwise (fun a b _ _ before after => absurd before (lt_asymm after))
      checked.pairwise_lt increasing checked.once
  conv_lhs => rw [checked.eq_map, sameUrls]

/-- Different addresses that are checked side by side, under any cap, in any order and with any delays,
each have the outcome that they have when checked alone. No order goes on for ever, every order can be
followed to an end, and the run by the clock is one of them. The outcomes depend neither on the cap nor
on the order of the list nor on the delays. -/
theorem outcomesAlone_in_every_order (policy : RetryPolicy) (probe : Probe) (cap : Option Nat)
    (urls : List String) (distinct : urls.Nodup) :
    let s : Setting := ⟨policy, probe, limitFor cap urls⟩
    let begun := Progress.start s.limit urls
    (∀ order : Nat → Progress, order 0 = begun → ¬ ∀ n, Move s (order n) (order (n + 1))) ∧
    (∀ p, Moves s begun p → ∃ q, Moves s p q ∧ q.running = []) ∧
    (∀ p, Moves s begun p → p.running = [] →
      OutcomesAlone policy probe urls (sortOutcomes p.finished)) ∧
    Moves s begun (runAll policy probe cap urls) ∧
    OutcomesAlone policy probe urls (checkAll policy probe cap urls) ∧
    ∀ (otherCap : Option Nat) (otherProbe : Probe) (addresses : List String),
      addresses.Perm urls → (∀ url k, (otherProbe url k).status = (probe url k).status) →
        checkAll policy otherProbe otherCap addresses = checkAll policy probe cap urls := by
  intro s begun
  refine ⟨?_, ?_, ?_, ?_, ?_, ?_⟩
  · exact fun order _ => no_endless_moves s order
  · exact fun p _ => ⟨p.run s, moves_run s p, running_run s p⟩
  · intro p reached ended
    have sound := (Sound.start s urls).moves distinct reached
    exact sound.outcomesAlone distinct (Nat.le_max_left _ _) ended
  · exact moves_run s begun
  · exact checkAll_outcomesAlone policy probe cap distinct
  · intro otherCap otherProbe addresses same sameEnds
    exact (checkAll_outcomesAlone policy otherProbe otherCap (same.nodup_iff.mpr distinct)).eq_of_perm
      (checkAll_outcomesAlone policy probe cap distinct) same sameEnds

/-- A server that asks once for a pause before it answers, under a cap of one check. -/
theorem outcomesAlone_after_pause :
    let policy : RetryPolicy := ⟨20000, 6⟩
    let probe : Probe := fun url earlier =>
      if url = "https://b.test" ∧ earlier = 0 then ⟨.code 429, 7⟩ else ⟨.code 200, 1⟩
    ["https://b.test", "https://a.test"].Nodup ∧
    checkOne policy probe "https://b.test" = ⟨"https://b.test", .code 200, 2⟩ ∧
    OutcomesAlone policy probe ["https://b.test", "https://a.test"]
      (checkAll policy probe (some 1) ["https://b.test", "https://a.test"]) := by
  intro policy probe
  have distinct : ["https://b.test", "https://a.test"].Nodup := by decide
  refine ⟨distinct, by decide, ?_⟩
  exact (outcomesAlone_in_every_order policy probe (some 1) _ distinct).2.2.2.2.1

end LinkGate.Check
