import LinkGate.Proofs.CheckSlots
import Mathlib.Data.List.Nodup

/-!
# First requests

Checks begin in the order of the list, and the clock lets those that have begun send their first requests in
the order in which they began, whenever slots become free. `InLine` says where each address of the list is
after some turns: it has been asked for, or its check is fresh, or it waits. Every turn is a request or takes
in an answer, so that the turns tell how many requests are not answered.
-/

namespace LinkGate.Check

/-! ## Kinds of turns -/

def Turn.first? : Turn → Option String
  | .request url number => if number = 1 then some url else none
  | .pause _ _ => none
  | .outcome _ => none

def Turn.isRequest : Turn → Bool
  | .request _ _ => true
  | .pause _ _ => false
  | .outcome _ => false

def Turn.isAnswer (turn : Turn) : Bool :=
  !turn.isRequest

theorem Turn.first?_eq_some_iff {turn : Turn} {url : String} :
    turn.first? = some url ↔ turn = .request url 1 := by
  cases turn with
  | request other number =>
      rw [first?, Option.ite_none_right_eq_some, Option.some.injEq, request.injEq]
      exact and_comm
  | pause other length => simp [first?]
  | outcome o => simp [first?]

/-- The first request of an address is sent as often as the address is among the first requests. -/
theorem count_first_request (turns : List Turn) (url : String) :
    turns.count (.request url 1) = (turns.filterMap Turn.first?).count url := by
  rw [List.count_filterMap, List.count]
  refine List.countP_congr fun turn _ => ?_
  rw [beq_iff_eq, beq_iff_eq, Turn.first?_eq_some_iff]

variable {s : Setting} {urls : List String} {p q : Progress} {turn : Turn} {turns done : List Turn}

/-! ## Requests and answers -/

/-- A turn sends one request more, or leaves one less without an answer. -/
theorem Does.inFlight (does : Does s p turn q) :
    p.inFlight + [turn].countP Turn.isRequest = [turn].countP Turn.isAnswer + q.inFlight := by
  have before {task : Task} {others : List Task}
      (taken : takeEarliest p.running = some (task, others)) :
      p.inFlight = others.countP Task.isAsking + if task.isAsking then 1 else 0 := by
    rw [Progress.inFlight, (takeEarliest_perm taken).countP_eq, List.countP_cons]
  cases does with
  | request taken clock replied =>
      rw [before taken, Progress.inFlight_resume]
      exact (Nat.zero_add _).symm
  | @pause _ _ _ _ _ others taken clock again =>
      rw [before taken, Progress.inFlight_resume]
      exact Nat.add_comm (others.countP Task.isAsking) 1
  | @outcome _ _ _ _ _ others taken clock final =>
      rw [before taken, Progress.inFlight_fill]
      exact Nat.add_comm (others.countP Task.isAsking) 1

/-- The requests of a history that are not answered in it are in flight behind it. -/
theorem History.inFlight (history : History s p turns q) :
    p.inFlight + turns.countP Turn.isRequest = turns.countP Turn.isAnswer + q.inFlight := by
  induction history with
  | done p => exact (Nat.zero_add _).symm
  | @next p between q turn turns does rest ih =>
      have here := does.inFlight
      rw [← List.singleton_append, List.countP_append, List.countP_append]
      omega

/-! ## The line -/

/-- The task that is taken out goes on before those in front of it. -/
theorem takeEarliest_append {tasks others : List Task} {task : Task}
    (taken : takeEarliest tasks = some (task, others)) :
    ∃ before after, tasks = before ++ task :: after ∧ others = before ++ after ∧
      ∀ other ∈ before, task.wakes < other.wakes := by
  induction tasks generalizing task others with
  | nil => simp [takeEarliest] at taken
  | cons first rest ih =>
      unfold takeEarliest at taken
      split at taken
      · next none =>
          simp only [Option.some.injEq, Prod.mk.injEq] at taken
          obtain ⟨rfl, rfl⟩ := taken
          rw [Progress.takeEarliest_eq_none none]
          exact ⟨[], [], rfl, rfl, List.forall_mem_nil _⟩
      · next least remaining found =>
          split at taken <;> simp only [Option.some.injEq, Prod.mk.injEq] at taken <;>
            obtain ⟨rfl, rfl⟩ := taken
          · exact ⟨[], rest, rfl, rfl, List.forall_mem_nil _⟩
          · next later =>
              obtain ⟨before, after, rfl, rfl, earlier⟩ := ih found
              refine ⟨first :: before, after, rfl, rfl, ?_⟩
              exact List.forall_mem_cons.mpr ⟨Nat.lt_of_not_le later, earlier⟩

/-- If fresh tasks stand in the order in which they go on, the first of them is taken out first. -/
theorem filter_isFresh_of_taken {tasks others : List Task} {task : Task}
    (taken : takeEarliest tasks = some (task, others))
    (sorted : (tasks.filter Task.isFresh).Pairwise fun a b => a.wakes ≤ b.wakes) :
    tasks.filter Task.isFresh =
      (if task.isFresh then [task] else []) ++ others.filter Task.isFresh := by
  obtain ⟨before, after, rfl, rfl, earlier⟩ := takeEarliest_append taken
  cases fresh : task.isFresh with
  | false => simp [List.filter_append, fresh]
  | true =>
      rw [List.filter_append, List.filter_cons_of_pos fresh] at sorted ⊢
      have none : before.filter Task.isFresh = [] := by
        refine List.eq_nil_iff_forall_not_mem.mpr fun other member => ?_
        have inOrder := (List.pairwise_append.mp sorted).2.2 other member task List.mem_cons_self
        exact absurd (earlier other (List.mem_of_mem_filter member)) (Nat.not_lt.mpr inOrder)
      rw [List.filter_append, none]
      rfl

/-- A check that is not fresh does not stand in line, wherever it waits. -/
theorem filter_isFresh_resume {task : Task} (asked : task.isFresh = false) :
    (p.resume task).running.filter Task.isFresh = p.running.filter Task.isFresh := by
  unfold Progress.resume
  split <;> simp [List.filter_append, asked]

/-- Addresses on their way to their first requests, after some turns. -/
structure InLine (urls : List String) (turns : List Turn) (p : Progress) : Prop where
  /-- Those that have been asked for are followed by those that are to be asked for. -/
  line : turns.filterMap Turn.first? ++
    ((p.running.filter Task.isFresh).map Task.url ++ p.waiting) = urls
  sorted : (p.running.filter Task.isFresh).Pairwise fun a b => a.wakes ≤ b.wakes
  begun : ∀ task ∈ p.running, task.isFresh = true → task.wakes ≤ p.now

namespace InLine

theorem fill (limit : Nat) (inLine : InLine urls turns p) : InLine urls turns (p.fill limit) := by
  have allFresh (begun : List String) :
      (begun.map (Task.begin p.now)).filter Task.isFresh = begun.map (Task.begin p.now) := by
    refine List.filter_eq_self.mpr fun task member => ?_
    obtain ⟨url, -, rfl⟩ := List.mem_map.mp member
    rfl
  refine ⟨?_, ?_, ?_⟩
  · simp only [Progress.fill, List.filter_append, allFresh, List.map_append, List.map_map]
    have same : Task.url ∘ Task.begin p.now = id := rfl
    rw [same, List.map_id, List.append_assoc, List.take_append_drop]
    exact inLine.line
  · simp only [Progress.fill, List.filter_append, allFresh]
    refine List.pairwise_append.mpr ⟨inLine.sorted, ?_, ?_⟩
    · exact List.pairwise_map.mpr (List.pairwise_of_forall fun _ _ => Nat.le_refl _)
    · intro earlier member later begun
      obtain ⟨url, -, rfl⟩ := List.mem_map.mp begun
      obtain ⟨running, fresh⟩ := List.mem_filter.mp member
      exact inLine.begun earlier running fresh
  · intro task member fresh
    rcases List.mem_append.mp member with running | begun
    · exact inLine.begun task running fresh
    · obtain ⟨url, -, rfl⟩ := List.mem_map.mp begun
      exact Nat.le_refl _

theorem start (limit : Nat) (urls : List String) : InLine urls [] (Progress.start limit urls) :=
  fill limit ⟨rfl, .nil, List.forall_mem_nil _⟩

/-- A check that goes on, which leaves the line if it was fresh. -/
theorem take {task : Task} {others : List Task} {now : Nat} {finished : List Outcome}
    {requests : List Request} (inLine : InLine urls turns p)
    (taken : takeEarliest p.running = some (task, others)) (later : p.now ≤ now)
    (first : turn.first? = if task.isFresh then some task.url else none) :
    InLine urls (turns ++ [turn]) ⟨now, p.waiting, others, finished, requests⟩ := by
  have out := filter_isFresh_of_taken taken inLine.sorted
  have line := inLine.line
  have sorted := inLine.sorted
  rw [out] at line sorted
  refine ⟨?_, (List.pairwise_append.mp sorted).2.1, ?_⟩
  · rw [List.filterMap_append, ← line, List.append_assoc]
    cases fresh : task.isFresh <;> simp [first, fresh]
  · intro other member fresh
    have running := (takeEarliest_perm taken).mem_iff.mpr (List.mem_cons_of_mem _ member)
    exact Nat.le_trans (inLine.begun other running fresh) later

theorem resume {task : Task} (inLine : InLine urls turns p) (asked : task.isFresh = false) :
    InLine urls turns (p.resume task) := by
  have same := filter_isFresh_resume (p := p) asked
  refine ⟨?_, ?_, ?_⟩
  · rw [same]
    exact inLine.line
  · rw [same]
    exact inLine.sorted
  · intro other member fresh
    rcases List.mem_cons.mp ((running_resume_perm p task).mem_iff.mp member) with rfl | running
    · rw [asked] at fresh
      contradiction
    · exact inLine.begun other running fresh

/-- Every turn keeps the line. -/
theorem does (inLine : InLine urls turns p) (sound : Sound s urls p) (does : Does s p turn q) :
    InLine urls (turns ++ [turn]) q := by
  have agrees {task : Task} {others : List Task}
      (taken : takeEarliest p.running = some (task, others)) : task.Agrees s :=
    (sound.tracks.running task ((takeEarliest_perm taken).mem_iff.mpr List.mem_cons_self)).1
  cases does with
  | request taken clock replied =>
      have later := clock ▸ Nat.le_max_left _ _
      refine (inLine.take taken later ?_).resume rfl
      simp [Turn.first?, Task.isFresh]
  | pause taken clock again =>
      have later := clock ▸ Nat.le_max_left _ _
      have asked := (agrees taken).isFresh_of_isAsking rfl
      refine (inLine.take taken later ?_).resume asked
      rw [asked]
      rfl
  | outcome taken clock final =>
      have later := clock ▸ Nat.le_max_left _ _
      have asked := (agrees taken).isFresh_of_isAsking rfl
      refine (inLine.take taken later ?_).fill s.limit
      rw [asked]
      rfl

theorem history (inLine : InLine urls done p) (sound : Sound s urls p) (distinct : urls.Nodup)
    (history : History s p turns q) : InLine urls (done ++ turns) q := by
  induction history generalizing done with
  | done p => exact (List.append_nil done).symm ▸ inLine
  | next does rest ih =>
      have further := ih (inLine.does sound does) (sound.move distinct (move_of_step does.step))
      rwa [List.append_assoc] at further

/-- The addresses that have been asked for are those of the first requests, in the order of the list. -/
theorem asked_eq (inLine : InLine urls turns p) (sound : Sound s urls p) (distinct : urls.Nodup) :
    p.asked urls = turns.filterMap Turn.first? := by
  -- The line holds each address of the list once, in front of its first request or behind it.
  have apart : ∀ url ∈ turns.filterMap Turn.first?,
      url ∉ (p.running.filter Task.isFresh).map Task.url ++ p.waiting := by
    have nodup := inLine.line ▸ distinct
    exact fun url first later => (List.nodup_append.mp nodup).2.2 url first url later rfl
  have asked : ∀ url ∈ turns.filterMap Turn.first?, 0 < p.requestCount url := by
    intro url first
    have member : url ∈ urls := inLine.line ▸ List.mem_append_left _ first
    refine Nat.pos_of_ne_zero fun none => apart url first (List.mem_append.mpr ?_)
    rcases sound.tracks.requestCount_eq_zero member none with waits | ⟨task, running, rfl, fresh⟩
    · exact Or.inr waits
    · exact Or.inl (List.mem_map_of_mem (List.mem_filter.mpr ⟨running, fresh⟩))
  have unasked : ∀ url ∈ (p.running.filter Task.isFresh).map Task.url ++ p.waiting,
      p.requestCount url = 0 := by
    intro url member
    rcases List.mem_append.mp member with fresh | waits
    · obtain ⟨task, inLine, rfl⟩ := List.mem_map.mp fresh
      obtain ⟨running, fresh⟩ := List.mem_filter.mp inLine
      rw [(sound.tracks.running task running).2]
      exact beq_iff_eq.mp fresh
    · exact sound.tracks.unasked url waits
  rw [Progress.asked]
  conv_lhs => rw [← inLine.line]
  rw [List.filter_append, List.filter_eq_self.mpr, List.filter_eq_nil_iff.mpr, List.append_nil]
  · exact fun url member => by simp [unasked url member]
  · exact fun url member => decide_eq_true (asked url member)

end InLine

/-! ## Runs under a cap -/

/-- Different addresses under a cap, at any moment and in any order of moves: no more of them than the cap allows,
but at least one, are between their first request and their outcome, and so no more requests are without an
answer. By the clock, the addresses are asked for the first time in the order of the list. A run has one first
request for each address, an answer for each request and an outcome for each address. -/
theorem checks_under_cap_begin_in_order (policy : RetryPolicy) (probe : Probe) (n : Nat)
    (urls : List String) (distinct : urls.Nodup) :
    let s : Setting := ⟨policy, probe, limitFor (some n) urls⟩
    let begun := Progress.start s.limit urls
    let ended := runAll policy probe (some n) urls
    (∀ p, Moves s begun p →
      p.inFlight ≤ (p.underWay urls).length ∧ (p.underWay urls).length ≤ max 1 n) ∧
    (∀ turns p, History s begun turns p →
      Moves s begun p ∧
      turns.countP Turn.isRequest = turns.countP Turn.isAnswer + p.inFlight ∧
      turns.filterMap Turn.first? = p.asked urls ∧ p.asked urls <+: urls) ∧
    ∃ turns, History s begun turns ended ∧
      turns.filterMap Turn.first? = urls ∧ (∀ url ∈ urls, turns.count (.request url 1) = 1) ∧
      turns.countP Turn.isRequest = turns.countP Turn.isAnswer ∧
      ((checkAll policy probe (some n) urls).map Outcome.url).Perm urls := by
  intro s begun ended
  have soundStart : Sound s urls begun := Sound.start s urls
  have silent : begun.inFlight = 0 := Progress.inFlight_fill s.limit _
  have inLine {turns : List Turn} {p : Progress} (history : History s begun turns p) :
      InLine urls turns p :=
    (InLine.start s.limit urls).history soundStart distinct history
  have balance {turns : List Turn} {p : Progress} (history : History s begun turns p) :
      turns.countP Turn.isRequest = turns.countP Turn.isAnswer + p.inFlight := by
    rw [← history.inFlight, silent, Nat.zero_add]
  refine ⟨?_, ?_, ?_⟩
  · intro p moves
    have sound := soundStart.moves distinct moves
    have slots := (Slots.start s urls).moves soundStart distinct moves
    exact ⟨inFlight_le_length_underWay sound distinct, length_underWay_le sound slots distinct⟩
  · intro turns p history
    have asked := (inLine history).asked_eq (soundStart.moves distinct history.moves) distinct
    refine ⟨history.moves, balance history, asked.symm, ?_⟩
    rw [asked]
    exact ⟨_, (inLine history).line⟩
  · obtain ⟨turns, history⟩ : ∃ turns, History s begun turns ended := exists_history_run s begun
    -- With no check under way, nobody is left in line, so that the first requests are all of the list.
    have none : ended.running = [] := running_run s begun
    have sound := soundStart.moves distinct history.moves
    have first : turns.filterMap Turn.first? = urls := by
      have line := (inLine history).line
      rwa [none, sound.waiting_eq_nil (Nat.le_max_left _ _) none, List.filter_nil, List.map_nil,
        List.append_nil, List.append_nil] at line
    refine ⟨turns, history, first, ?_, ?_, ?_⟩
    · intro url member
      rw [count_first_request, first]
      exact List.nodup_iff_count_eq_one.mp distinct url member
    · rw [balance history, Progress.inFlight, none]
      rfl
    · exact (checkAll_outcomesAlone policy probe (some n) distinct).once

/-- A cap of zero lets one check run, which keeps its slot during its pause. -/
theorem checks_under_cap_begin_in_order_of_cap_zero :
    let probe : Probe := fun url earlier =>
      if url = "https://b.test" ∧ earlier = 0 then ⟨.code 429, 7⟩ else ⟨.code 200, 1⟩
    let urls := ["https://b.test", "https://a.test"]
    let s : Setting := ⟨⟨20, 6⟩, probe, limitFor (some 0) urls⟩
    let turns : List Turn := [.request "https://b.test" 1, .pause "https://b.test" 20]
    let p : Progress :=
      ⟨7, ["https://a.test"], [⟨"https://b.test", 1, .due, 27⟩], [], [⟨"https://b.test", 0⟩]⟩
    urls.Nodup ∧ History s (Progress.start s.limit urls) turns p ∧
      p.asked urls = ["https://b.test"] ∧ (p.underWay urls).length ≤ 1 := by
  intro probe urls s turns p
  have distinct : urls.Nodup := by decide
  obtain ⟨bounded, ordered, -⟩ := checks_under_cap_begin_in_order ⟨20, 6⟩ probe 0 urls distinct
  have history : History s (Progress.start s.limit urls) turns p :=
    .next (.request rfl rfl rfl) (.next (.pause rfl rfl rfl) (.done _))
  obtain ⟨moves, -, asked, -⟩ := ordered turns p history
  exact ⟨distinct, history, asked.symm, (bounded p moves).2⟩

end LinkGate.Check
