import LinkGate.Proofs.CheckAnyOrder
import LinkGate.Proofs.ScanFindings

/-!
# Runs, link by link

A run looks for files while it reads, gathers addresses, requests each of them once and side by side,
and puts the failures together at the end. What it reports is what one would report who looks at every
link alone: the same failures, each as often, and a run passes when every link works.
-/

namespace LinkGate

/-! ## One link alone -/

theorem Status.flaw?_eq_none {url : String} {status : Status} :
    status.flaw? url = none ↔ status = .code 200 := by
  cases status with
  | failed error => simp [flaw?]
  | code code => by_cases works : code = 200 <;> simp [flaw?, success, works]

namespace Occurrence

variable (context : Context) (files : Files) (policy : RetryPolicy) (probe : Probe) (o : Occurrence)

def Works : Prop :=
  match o.meaning with
  | .error _ => False
  | .ok (.localFile path) => path.isAbsolute = false ∧ files.has (context.root.join path) = true
  | .ok (.anchor document fragment) =>
    ∃ base, context.baseUrl = some base ∧
      (checkOne policy probe (base ++ document ++ "#" ++ fragment)).status = .code 200
  | .ok (.remote url) => (checkOne policy probe url).status = .code 200

/-- The failure of a link that is checked alone. An address fails unless its last request ends with
code 200. -/
def failureAlone? : Option Failure :=
  match o.address? context with
  | none => o.failure? context files
  | some url =>
    match (checkOne policy probe url).status with
    | .code code => if code = 200 then none else some ⟨o.origin, .badStatus url code⟩
    | .failed error => some ⟨o.origin, .transport url error⟩

variable {context files policy probe o} {url : String}

/-- What is reported of a link with an address shows in the status of the address. -/
theorem failureAlone?_of_address? (address : o.address? context = some url) :
    o.failureAlone? context files policy probe =
      ((checkOne policy probe url).status.flaw? url).map (⟨o.origin, ·⟩) := by
  simp only [failureAlone?, address]
  cases (checkOne policy probe url).status with
  | failed error => rfl
  | code code => by_cases success : code = 200 <;> simp [Status.flaw?, Status.success, success]

theorem failureAlone?_eq_none (address : o.address? context = some url) :
    o.failureAlone? context files policy probe = none ↔
      (checkOne policy probe url).status = .code 200 := by
  rw [failureAlone?_of_address? address, Option.map_eq_none_iff, Status.flaw?_eq_none]

/-- A link works if it has no failure. -/
theorem works_iff (kept : o.isLost context = false) :
    o.Works context files policy probe ↔ o.failureAlone? context files policy probe = none := by
  cases meaning : o.meaning with
  | error violation =>
      cases violation
      simp [Works, failureAlone?, address?, failure?, flaw?, meaning]
  | ok target =>
      cases target with
      | localFile path => simp [Works, failureAlone?, address?, failure?, flaw?, meaning]
      | remote url =>
          have address : o.address? context = some url := by simp only [address?, meaning]
          simp only [Works, meaning, failureAlone?_eq_none address]
      | anchor document fragment =>
          simp only [isLost, meaning, Option.isNone_eq_false_iff, Option.isSome_iff_exists] at kept
          obtain ⟨base, known⟩ := kept
          have address : o.address? context = some (base ++ document ++ "#" ++ fragment) := by
            simp only [address?, meaning, known, Option.map_some]
          simp only [Works, meaning, known, Option.some.injEq, exists_eq_left',
            failureAlone?_eq_none address]

end Occurrence

/-! ## Links by address -/

section Grouping

variable {context : Context} {files : Files} {policy : RetryPolicy} {probe : Probe} {url : String}
  (seen : List Occurrence)

/-- The failures seen before any request are those of the links without an address. -/
theorem filterMap_failure? (policy : RetryPolicy) (probe : Probe) :
    seen.filterMap (Occurrence.failure? context files) =
      (seen.filter (·.address? context = none)).filterMap
        (Occurrence.failureAlone? context files policy probe) := by
  induction seen with
  | nil => rfl
  | cons o rest ih =>
      cases address : o.address? context with
      | none => simp [List.filterMap_cons, address, ih, Occurrence.failureAlone?]
      | some url =>
          have noFlaw := Occurrence.flaw?_of_address? files address
          simp [address, ih, Occurrence.failure?, noFlaw]

/-- The places kept under an address are those of the links with this address. -/
theorem origins_written :
    ((seen.filterMap (Occurrence.written? context)).filter (·.1 = url)).map Prod.snd =
      (seen.filter (·.address? context = some url)).map Occurrence.origin := by
  induction seen with
  | nil => rfl
  | cons o rest ih =>
      cases address : o.address? context with
      | none =>
          simp only [List.filterMap_cons, Occurrence.written?, address, Option.map_none, List.filter_cons,
            reduceCtorEq, decide_false, Bool.false_eq_true, if_false, ih]
      | some other =>
          by_cases same : other = url <;>
            simp [Occurrence.written?, address, same, ← ih]

/-- The failures of one address, at all places at which it is written. -/
theorem failures_of_address {places : List Origin}
    (written : places = (seen.filter (·.address? context = some url)).map Occurrence.origin) :
    (match (checkOne policy probe url).status.flaw? url with
      | none => []
      | some flaw => places.map (⟨·, flaw⟩)) =
      (seen.filter (·.address? context = some url)).filterMap
        (Occurrence.failureAlone? context files policy probe) := by
  have alone : (seen.filter (·.address? context = some url)).filterMap
        (Occurrence.failureAlone? context files policy probe) =
      (seen.filter (·.address? context = some url)).filterMap fun o =>
        ((checkOne policy probe url).status.flaw? url).map (⟨o.origin, ·⟩) := by
    refine List.filterMap_congr fun o member => ?_
    exact Occurrence.failureAlone?_of_address? (of_decide_eq_true (List.mem_filter.mp member).2)
  rw [alone, written]
  cases (checkOne policy probe url).status.flaw? url with
  | none => simp
  | some flaw => simp [Function.comp_def]

/-- Links without an address together with the links of each address are all links, each once. -/
theorem grouped_perm {urls : List String} (distinct : urls.Nodup)
    (complete : ∀ o ∈ seen, ∀ url, o.address? context = some url → url ∈ urls) :
    (seen.filter (·.address? context = none) ++
      urls.flatMap fun url => seen.filter (·.address? context = some url)).Perm seen := by
  induction urls generalizing seen with
  | nil =>
      have noneHas : seen.filter (·.address? context = none) = seen := by
        refine List.filter_eq_self.mpr fun o member => decide_eq_true ?_
        exact Option.eq_none_iff_forall_ne_some.mpr fun url address =>
          absurd (complete o member url address) List.not_mem_nil
      rw [List.flatMap_nil, List.append_nil, noneHas]
  | cons url rest ih =>
      obtain ⟨absent, restDistinct⟩ := List.nodup_cons.mp distinct
      -- The links with the first address are set apart; the others keep their groups.
      let others := seen.filter fun o => !decide (o.address? context = some url)
      have othersComplete : ∀ o ∈ others, ∀ k, o.address? context = some k → k ∈ rest := by
        intro o member k address
        obtain ⟨inSeen, different⟩ := List.mem_filter.mp member
        rcases List.mem_cons.mp (complete o inSeen k address) with rfl | inRest
        · simp [address] at different
        · exact inRest
      have sameNone : others.filter (·.address? context = none) =
          seen.filter (·.address? context = none) := by
        rw [List.filter_filter]
        refine List.filter_congr fun o _ => ?_
        cases o.address? context <;> simp
      have sameGroups : (rest.flatMap fun k => others.filter (·.address? context = some k)) =
          rest.flatMap fun k => seen.filter (·.address? context = some k) := by
        refine List.flatMap_congr fun k member => ?_
        rw [List.filter_filter]
        refine List.filter_congr fun o _ => ?_
        by_cases address : o.address? context = some k
        · have different : k ≠ url := fun same => absent (same ▸ member)
          simp [address, different]
        · simp [address]
      have grouped := ih others restDistinct othersComplete
      rw [sameNone, sameGroups] at grouped
      rw [List.flatMap_cons]
      refine (List.perm_append_comm_assoc _ _ _).trans ?_
      exact (grouped.append_left _).trans (List.filter_append_perm _ seen)

end Grouping

/-! ## From an empty scan -/

namespace Scanned

variable {context : Context} {files : Files} {documents : List Path} {seen : List Occurrence}
  {scan : Scan} {url : String}

theorem links_of_empty (added : Scanned context files documents seen .empty scan) :
    scan.links = LinkSet.empty.insertAll (seen.filterMap (Occurrence.written? context)) :=
  added.links

theorem wellFormed (added : Scanned context files documents seen .empty scan) :
    scan.links.WellFormed := by
  rw [added.links_of_empty]
  exact LinkSet.WellFormed.empty.insertAll

theorem mem_urls (added : Scanned context files documents seen .empty scan) :
    url ∈ scan.links.urls ↔ ∃ o ∈ seen, o.address? context = some url := by
  have noneBefore : url ∉ LinkSet.empty.urls := List.not_mem_nil
  rw [added.links_of_empty, LinkSet.mem_urls_insertAll, or_iff_right noneBefore]
  simp only [List.mem_filterMap, Occurrence.written?, Option.map_eq_some_iff]
  constructor
  · rintro ⟨link, ⟨o, member, other, address, rfl⟩, rfl⟩
    exact ⟨o, member, address⟩
  · rintro ⟨o, member, address⟩
    exact ⟨(url, o.origin), ⟨o, member, url, address, rfl⟩, rfl⟩

/-- The places that are kept under an address are those of the links with this address. -/
theorem origins (added : Scanned context files documents seen .empty scan) :
    scan.links.origins url =
      (seen.filter (·.address? context = some url)).map Occurrence.origin := by
  have noneBefore : LinkSet.empty.origins url = [] := rfl
  rw [added.links_of_empty, LinkSet.origins_insertAll .empty, noneBefore, List.nil_append]
  exact origins_written seen

/-- The failures at the end are those seen at once and those of each address at all its places. -/
theorem failures_finish (policy : RetryPolicy) (cap : Option Nat) (probe : Probe)
    (added : Scanned context files documents seen .empty scan) :
    (scan.verdicts.finish scan.links (Check.checkAll policy probe cap scan.links.urls)
        context).failures =
      seen.filterMap (Occurrence.failure? context files) ++
        scan.links.urls.flatMap fun url =>
          (seen.filter (·.address? context = some url)).filterMap
            (Occurrence.failureAlone? context files policy probe) := by
  have atOnce : scan.verdicts.failures = seen.filterMap (Occurrence.failure? context files) :=
    added.failures
  have afterwards : Verdicts.remoteFailures scan.links
        (Check.checkAll policy probe cap scan.links.urls) =
      scan.links.urls.flatMap fun url =>
        (seen.filter (·.address? context = some url)).filterMap
          (Occurrence.failureAlone? context files policy probe) := by
    rw [Check.checkAll_of_increasing policy probe cap added.wellFormed.increasing,
      Verdicts.remoteFailures, List.flatMap_map]
    exact List.flatMap_congr fun url _ => failures_of_address seen added.origins
  simp only [Verdicts.finish, atOnce, afterwards]

end Scanned

/-! ## Whole runs -/

variable {context : Context} {files : Files} {policy : RetryPolicy} {cap : Option Nat}
  {probe : Probe} {report : Report}

/-- A run with a report has read its documents to their end and checked all addresses in them. -/
theorem run_ok (ended : (context.run files policy cap probe).result = .ok report) :
    ∃ scan, Scan.scanDocuments context files context.scope.documents .empty = .ok scan ∧
      report = scan.verdicts.finish scan.links (Check.checkAll policy probe cap scan.links.urls)
        context := by
  unfold Context.run at ended
  split at ended
  · exact absurd ended (by simp)
  · next scan scanned => exact ⟨scan, scanned, (Except.ok.inj ended).symm⟩

/-- The failures of a run are those of its links, each checked alone, in some order. -/
theorem failures_perm_of_run_ok (ended : (context.run files policy cap probe).result = .ok report) :
    report.failures.Perm ((context.occurrences files).filterMap
      (Occurrence.failureAlone? context files policy probe)) := by
  obtain ⟨scan, scanned, rfl⟩ := run_ok ended
  obtain ⟨-, -, added⟩ := Scan.scanDocuments_ok scanned
  have complete : ∀ o ∈ context.occurrences files, ∀ url,
      o.address? context = some url → url ∈ scan.links.urls :=
    fun o member url address => added.mem_urls.mpr ⟨o, member, address⟩
  have grouped :=
    grouped_perm (context.occurrences files) (added.wellFormed.increasing.imp ne_of_lt) complete
  rw [added.failures_finish policy cap probe, filterMap_failure? _ policy probe,
    ← List.filterMap_flatMap, ← List.filterMap_append]
  exact grouped.filterMap (Occurrence.failureAlone? context files policy probe)

/-- The failures of a run are those of its links, each checked alone: first those that need no request,
in the order of the documents and of the links in each, and behind them those of each address, the
addresses in the order of their bytes and the places of one address in the order of the documents and
of the links. No link is left out or reported twice, and a run passes if every link works. -/
theorem run_linkByLink (ended : (context.run files policy cap probe).result = .ok report) :
    let links := context.occurrences files
    let failureAlone? := Occurrence.failureAlone? context files policy probe
    (∀ d ∈ context.scope.documents, ∃ text, files.readText (context.root.join d.path) = .ok text) ∧
    (∃ urls : List String,
      (urls.Pairwise fun a b => Text.bytes a < Text.bytes b) ∧
      (∀ url, url ∈ urls ↔ ∃ o ∈ links, o.address? context = some url) ∧
      report.failures =
        links.filterMap (Occurrence.failure? context files) ++
          urls.flatMap fun url =>
            (links.filter (·.address? context = some url)).filterMap failureAlone?) ∧
    report.failures.Perm (links.filterMap failureAlone?) ∧
    (report.passed = true ↔ ∀ o ∈ links, o.Works context files policy probe) := by
  intro links failureAlone?
  have sameAsAlone := failures_perm_of_run_ok ended
  obtain ⟨scan, scanned, rfl⟩ := run_ok ended
  obtain ⟨readable, kept, added⟩ := Scan.scanDocuments_ok scanned
  have failures := added.failures_finish policy cap probe
  refine ⟨readable, ⟨scan.links.urls, ?_, fun _ => added.mem_urls, failures⟩, sameAsAlone, ?_⟩
  · exact added.wellFormed.increasing.imp fun less => Text.lt_iff_bytes_lt.mp less
  · rw [Report.passed, List.isEmpty_iff, ← List.length_eq_zero_iff, sameAsAlone.length_eq,
      List.length_eq_zero_iff, List.filterMap_eq_nil_iff]
    exact forall₂_congr fun o member => (Occurrence.works_iff (kept o member)).symm

/-- Two documents with one address between them, and a third one with the name of a missing file. -/
theorem run_linkByLink_of_shared_address :
    let context : Context :=
      ⟨⟨"."⟩, "main", none, Scope.whole [⟨⟨"a.md"⟩, true⟩, ⟨⟨"b.md"⟩, true⟩, ⟨⟨"c.md"⟩, false⟩]⟩
    let files : Files :=
      { read := fun path =>
          .ok (if path.text = "./b.md" then "[y](d.md)".toUTF8 else "[x](http://[::1]/)".toUTF8)
        has := fun _ => false }
    let probe : Probe := fun _ _ => ⟨.code 404, 1⟩
    let report : Report :=
      { branch := "main", mode := .full
        documentsChecked := [⟨"a.md"⟩, ⟨"b.md"⟩, ⟨"c.md"⟩], documentsSkipped := []
        localLinksChecked := 1, outcomes := [⟨"http://[::1]/", .code 404, 1⟩]
        failures :=
          [⟨⟨⟨"b.md"⟩, "d.md", 1⟩, .missingLocalFile ⟨"d.md"⟩⟩,
            ⟨⟨⟨"a.md"⟩, "http://[::1]/", 1⟩, .badStatus "http://[::1]/" 404⟩,
            ⟨⟨⟨"c.md"⟩, "http://[::1]/", 1⟩, .badStatus "http://[::1]/" 404⟩] }
    (context.run files .standard none probe).result = .ok report ∧
      report.failures.Perm ((context.occurrences files).filterMap
        (Occurrence.failureAlone? context files .standard probe)) := by
  intro context files probe report
  have scanned : Scan.scanDocuments context files context.scope.documents .empty = .ok
      ⟨⟨[⟨"a.md"⟩, ⟨"b.md"⟩, ⟨"c.md"⟩], 1, [⟨⟨⟨"b.md"⟩, "d.md", 1⟩, .missingLocalFile ⟨"d.md"⟩⟩]⟩,
        ⟨[("http://[::1]/", [⟨⟨"a.md"⟩, "http://[::1]/", 1⟩, ⟨⟨"c.md"⟩, "http://[::1]/", 1⟩])]⟩⟩ := by
    decide +kernel
  have checked : Check.sortOutcomes (Check.runAll .standard probe none ["http://[::1]/"]).finished =
      [⟨"http://[::1]/", .code 404, 1⟩] :=
    Check.checkAll_of_increasing .standard probe none (List.pairwise_singleton _ _)
  have ended : (context.run files .standard none probe).result = .ok report := by
    simp only [Context.run, scanned, LinkSet.urls, List.map_cons, List.map_nil, checked]
    rfl
  exact ⟨ended, (run_linkByLink ended).2.2.1⟩

end LinkGate
