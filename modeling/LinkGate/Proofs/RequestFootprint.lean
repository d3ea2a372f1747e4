import LinkGate.Proofs.LinkByLink

/-!
# The requests of a run

Requests are made for the addresses that links lead to and for nothing else. However many links lead to
an address, it is asked for as often as one check of it takes, and its outcome says how often that was.
Within one run an address and the number of a request fix the answer, so that nothing is assumed of the
network.
-/

namespace LinkGate

/-! ## Requests of checks side by side -/

namespace Check

variable {s : Setting} {urls : List String} {p q : Progress}

theorem mem_requests_proceed {task : Task} {request : Request}
    (sent : request ∈ (p.proceed s task).requests) :
    request ∈ p.requests ∨ request.url = task.url := by
  unfold Progress.proceed at sent
  split at sent
  · simp only [Progress.resume, List.mem_append, List.mem_singleton] at sent
    rcases sent with earlier | now
    · exact Or.inl earlier
    · exact Or.inr (congrArg Request.url now)
  · split at sent
    · exact Or.inl sent
    · exact Or.inl sent

/-- No move asks for an address that is not to be checked. -/
theorem requests_move (sound : Sound s urls p) (move : Move s p q)
    (within : ∀ request ∈ p.requests, request.url ∈ urls) :
    ∀ request ∈ q.requests, request.url ∈ urls := by
  cases move with
  | @goOn task others time running later =>
      intro request sent
      rcases mem_requests_proceed sent with earlier | own
      · exact within request earlier
      · rw [own]
        exact sound.tracks.url_mem (running.mem_iff.mpr List.mem_cons_self)

theorem requests_moves (sound : Sound s urls p) (distinct : urls.Nodup) (moves : Moves s p q)
    (within : ∀ request ∈ p.requests, request.url ∈ urls) :
    ∀ request ∈ q.requests, request.url ∈ urls := by
  induction moves with
  | refl => exact within
  | tail earlier step ih => exact requests_move (sound.moves distinct earlier) step ih

/-- Checks side by side ask for each address as often as its outcome says, and for no other. -/
theorem requests_runAll (policy : RetryPolicy) (probe : Probe) (cap : Option Nat)
    (distinct : urls.Nodup) :
    (∀ request ∈ (runAll policy probe cap urls).requests, request.url ∈ urls) ∧
      ∀ o ∈ checkAll policy probe cap urls,
        (runAll policy probe cap urls).requests.countP (·.url == o.url) = o.attempts := by
  let s : Setting := ⟨policy, probe, limitFor cap urls⟩
  have begun := Sound.start s urls
  have moved := moves_run s (Progress.start s.limit urls)
  constructor
  · refine requests_moves begun distinct moved ?_
    intro request sent
    cases sent
  · intro o member
    have ended : o ∈ (runAll policy probe cap urls).finished :=
      (sortOutcomes_perm _).mem_iff.mp member
    exact ((begun.moves distinct moved).tracks.finished o ended).2

end Check

/-! ## Requests of a run -/

/-- The addresses that links lead to: what a target says in full, and the rendered heading that a target
names. -/
inductive Context.LeadsTo (context : Context) (files : Files) : String → Prop where
  | remote {document : Document} {text url : String} {link : Markdown.RawLink}
      (inScope : document ∈ context.scope.documents)
      (read : files.readText (context.root.join document.path) = .ok text)
      (found : link ∈ Markdown.extractLinks text)
      (meaning : Target.classify link.target document.path document.allowLocal = .ok (.remote url)) :
      LeadsTo context files url
  | heading {document : Document} {text heading fragment base : String} {link : Markdown.RawLink}
      (inScope : document ∈ context.scope.documents)
      (read : files.readText (context.root.join document.path) = .ok text)
      (found : link ∈ Markdown.extractLinks text)
      (meaning : Target.classify link.target document.path document.allowLocal =
        .ok (.anchor heading fragment))
      (known : context.baseUrl = some base) :
      LeadsTo context files (base ++ heading ++ "#" ++ fragment)

/-- Links lead to the addresses by which they are judged. -/
theorem Context.leadsTo_iff {context : Context} {files : Files} {url : String} :
    context.LeadsTo files url ↔
      ∃ o ∈ context.occurrences files, o.address? context = some url := by
  constructor
  · intro leads
    cases leads with
    | @remote document text _ link inScope read found meaning =>
        refine ⟨⟨document, link⟩, ?_, ?_⟩
        · exact List.mem_flatMap.mpr
            ⟨document, inScope, Document.mem_occurrences.mpr ⟨text, read, link, found, rfl⟩⟩
        · simp only [Occurrence.address?, Occurrence.meaning, meaning]
    | @heading document text heading fragment base link inScope read found meaning known =>
        refine ⟨⟨document, link⟩, ?_, ?_⟩
        · exact List.mem_flatMap.mpr
            ⟨document, inScope, Document.mem_occurrences.mpr ⟨text, read, link, found, rfl⟩⟩
        · simp only [Occurrence.address?, Occurrence.meaning, meaning, known, Option.map_some]
  · rintro ⟨o, member, address⟩
    obtain ⟨document, inScope, inDocument⟩ := List.mem_flatMap.mp member
    obtain ⟨text, read, link, found, rfl⟩ := Document.mem_occurrences.mp inDocument
    unfold Occurrence.address? Occurrence.meaning at address
    split at address
    · next target meaning =>
        obtain rfl := Option.some.inj address
        exact .remote inScope read found meaning
    · next heading fragment meaning =>
        obtain ⟨base, known, rfl⟩ := Option.map_eq_some_iff.mp address
        exact .heading inScope read found meaning known
    · contradiction

variable {context : Context} {files : Files} {policy : RetryPolicy} {cap : Option Nat}
  {probe : Probe} {report : Report}

/-- The requests of a run with a report are those of the checks of its addresses. -/
theorem requests_run_ok (ended : (context.run files policy cap probe).result = .ok report) :
    ∃ urls : List String, urls.Pairwise (· < ·) ∧ (∀ url, url ∈ urls ↔ context.LeadsTo files url) ∧
      report.outcomes = Check.checkAll policy probe cap urls ∧
      (context.run files policy cap probe).requests =
        (Check.runAll policy probe cap urls).requests := by
  obtain ⟨scan, scanned, rfl⟩ := run_ok ended
  obtain ⟨-, -, added⟩ := Scan.scanDocuments_ok scanned
  refine ⟨scan.links.urls, added.wellFormed.increasing, ?_, rfl, ?_⟩
  · intro url
    rw [Context.leadsTo_iff]
    exact added.mem_urls
  · rw [Context.run, scanned]

/-- A run with a report asks for the addresses that its links lead to, and for nothing else. There is one
outcome for each of them, in the order of their bytes, which says how often the address was asked for: at
least once, and not more often than the policy allows, however many links lead to it. -/
theorem run_requests_each_address
    (ended : (context.run files policy cap probe).result = .ok report) :
    let requests := (context.run files policy cap probe).requests
    (∀ url, (∃ request ∈ requests, request.url = url) ↔ context.LeadsTo files url) ∧
    (∀ url, (∃ o ∈ report.outcomes, o.url = url) ↔ context.LeadsTo files url) ∧
    (report.outcomes.Pairwise fun a b => Text.bytes a.url < Text.bytes b.url) ∧
    ∀ o ∈ report.outcomes, requests.countP (·.url == o.url) = o.attempts ∧
      1 ≤ o.attempts ∧ o.attempts ≤ max 1 policy.maxAttempts := by
  intro requests
  obtain ⟨urls, increasing, leads, outcomes, sent⟩ := requests_run_ok ended
  have distinct : urls.Nodup := increasing.imp ne_of_lt
  have checked := Check.checkAll_outcomesAlone policy probe cap distinct
  rw [← outcomes] at checked
  obtain ⟨within, counted⟩ := Check.requests_runAll policy probe cap distinct
  rw [← outcomes] at counted
  rw [← sent] at within counted
  have answered (url : String) : (∃ o ∈ report.outcomes, o.url = url) ↔ url ∈ urls := by
    rw [← List.mem_map]
    exact checked.once.mem_iff
  have attempts : ∀ o ∈ report.outcomes, 1 ≤ o.attempts ∧ o.attempts ≤ max 1 policy.maxAttempts := by
    intro o member
    rw [checked.alone o member]
    exact attempts_checkOne policy probe o.url
  refine ⟨?_, ?_, checked.increasing, ?_⟩
  · intro url
    rw [← leads]
    constructor
    · rintro ⟨request, member, rfl⟩
      exact within request member
    · intro member
      -- The outcome of the address counts at least one request for it.
      obtain ⟨o, hasOutcome, rfl⟩ := (answered url).mpr member
      have once := (attempts o hasOutcome).1
      rw [← counted o hasOutcome] at once
      obtain ⟨request, inRequests, same⟩ := List.countP_pos_iff.mp once
      exact ⟨request, inRequests, eq_of_beq same⟩
  · intro url
    rw [answered, leads]
  · intro o member
    exact ⟨counted o member, attempts o member⟩

/-- An address in two documents, at which a server first asks for a pause, and the name of a file in a
third one. -/
theorem run_requests_shared_address_twice :
    let context : Context :=
      ⟨⟨"."⟩, "main", none, Scope.whole [⟨⟨"a.md"⟩, true⟩, ⟨⟨"b.md"⟩, true⟩, ⟨⟨"c.md"⟩, false⟩]⟩
    let files : Files :=
      { read := fun path =>
          .ok (if path.text = "./b.md" then "[y](d.md)".toUTF8 else "[x](http://[::1]/)".toUTF8)
        has := fun _ => true }
    let policy : RetryPolicy := ⟨20000, 3⟩
    let probe : Probe := fun _ earlier => if earlier = 0 then ⟨.code 429, 7⟩ else ⟨.code 200, 1⟩
    let run := context.run files policy (some 1) probe
    let report : Report :=
      { branch := "main", mode := .full
        documentsChecked := [⟨"a.md"⟩, ⟨"b.md"⟩, ⟨"c.md"⟩], documentsSkipped := []
        localLinksChecked := 1
        outcomes := [⟨"http://[::1]/", .code 200, 2⟩], failures := [] }
    run.result = .ok report ∧ context.LeadsTo files "http://[::1]/" ∧
      run.requests.countP (·.url == "http://[::1]/") = 2 := by
  intro context files policy probe run report
  have scanned : Scan.scanDocuments context files context.scope.documents .empty = .ok
      ⟨⟨[⟨"a.md"⟩, ⟨"b.md"⟩, ⟨"c.md"⟩], 1, []⟩,
        ⟨[("http://[::1]/", [⟨⟨"a.md"⟩, "http://[::1]/", 1⟩, ⟨⟨"c.md"⟩, "http://[::1]/", 1⟩])]⟩⟩ := by
    decide +kernel
  have checked : Check.sortOutcomes (Check.runAll policy probe (some 1) ["http://[::1]/"]).finished =
      [⟨"http://[::1]/", .code 200, 2⟩] :=
    Check.checkAll_of_increasing policy probe (some 1) (List.pairwise_singleton _ _)
  have ended : run.result = .ok report := by
    simp only [run, Context.run, scanned, LinkSet.urls, List.map_cons, List.map_nil, checked]
    rfl
  obtain ⟨-, answered, -, counted⟩ := run_requests_each_address ended
  have member : (⟨"http://[::1]/", .code 200, 2⟩ : Outcome) ∈ report.outcomes := List.mem_cons_self
  exact ⟨ended, (answered _).mp ⟨_, member, rfl⟩, (counted _ member).1⟩

end LinkGate
