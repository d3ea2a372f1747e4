import LinkGate.Proofs.ScopeDivision
import Mathlib.Data.List.Nodup

/-!
# Documents that are listed more than once

A run is meant to read each document once, but nothing removes the entries of a list that name a document
again, under another spelling or with another rule for its links. What is spelt alike is checked all together
or not at all, so that a scope names a path twice exactly if the list does. A document that a scope names
once is read once and each of its failures is reported once; any other is read and reported once for each
entry.
-/

namespace LinkGate

/-! ## Entries of one path -/

/-- The entries of a list whose paths are spellings of a given one. -/
def Document.spelling (path : Path) (documents : List Document) : List Document :=
  documents.filter (path.SpeltAlike ·.path)

/-- Whether no two entries of a list have spellings of one path. -/
def Document.Distinct (documents : List Document) : Prop :=
  documents.Pairwise fun d e => ¬ d.path.SpeltAlike e.path

instance (documents : List Document) : Decidable (Document.Distinct documents) :=
  inferInstanceAs (Decidable (documents.Pairwise _))

namespace Document

variable {path : Path} {documents : List Document} {document : Document}

theorem mem_spelling :
    document ∈ spelling path documents ↔ document ∈ documents ∧ path.SpeltAlike document.path := by
  rw [spelling, List.mem_filter, decide_eq_true_iff]

theorem mem_spelling_self (listed : document ∈ documents) :
    document ∈ spelling document.path documents :=
  mem_spelling.mpr ⟨listed, rfl, rfl⟩

theorem flatMap_spelling {α : Type} (gather : Document → List α) :
    (spelling path documents).flatMap gather =
      documents.flatMap fun d => if path.SpeltAlike d.path then gather d else [] := by
  rw [spelling]
  induction documents with
  | nil => rfl
  | cons d rest ih =>
      by_cases alike : path.SpeltAlike d.path
      · rw [List.filter_cons_of_pos (by simpa using alike), List.flatMap_cons, List.flatMap_cons,
          if_pos alike, ih]
      · rw [List.filter_cons_of_neg (by simpa using alike), List.flatMap_cons, if_neg alike, ih,
          List.nil_append]

theorem length_spelling (path : Path) (documents : List Document) :
    (spelling path documents).length =
      (documents.map fun d => d.path.identity).count path.identity := by
  rw [List.count_eq_countP, List.countP_map, List.countP_eq_length_filter, spelling]
  congr 2
  funext d
  simp only [Function.comp_apply, ← Path.identity_eq_iff, eq_comm (a := path.identity), beq_eq_decide]

/-- Entries are distinct exactly if each is the only one that spells its path. -/
theorem distinct_iff :
    Distinct documents ↔ ∀ d ∈ documents, spelling d.path documents = [d] := by
  have identities : Distinct documents ↔ (documents.map fun d => d.path.identity).Nodup := by
    simp only [Distinct, List.Nodup, List.pairwise_map, ne_eq, Path.identity_eq_iff]
  rw [identities, List.nodup_iff_count_eq_one, List.forall_mem_map]
  refine forall₂_congr fun d listed => ?_
  rw [← length_spelling, List.length_eq_one_iff]
  constructor
  · rintro ⟨only, single⟩
    have self := mem_spelling_self listed
    rw [single] at self ⊢
    rw [List.mem_singleton.mp self]
  · exact fun single => ⟨d, single⟩

end Document

/-! ## Scopes -/

open Git

namespace Scope

variable {config : Config} {environment : Environment} {branch : String}
  {documents : List Document} {git : Behaviour} {earlier calls : List Call} {scope : Scope}

/-- The entries that spell one path are checked all together or not at all. -/
theorem spelling_of_select
    (selected : (select config environment branch documents).run git earlier = (.ok scope, calls))
    (path : Path) :
    Document.spelling path scope.documents = Document.spelling path documents ∨
      Document.spelling path scope.documents = [] := by
  rcases select_ok selected with ⟨-, rfl⟩ | ⟨-, -, changed, -, -, rfl⟩
  · exact Or.inl rfl
  · simp only [ofChanges, List.partition_eq_filter_filter, Document.spelling, List.filter_filter]
    -- Whether an entry has changed shows in the path that all of them spell.
    have sameAnswer : ∀ d : Document, path.SpeltAlike d.path →
        (changed.map Path.identity).contains d.path.identity =
          (changed.map Path.identity).contains path.identity := by
      intro d alike
      rw [Path.identity_eq_iff.mpr alike]
    cases named : (changed.map Path.identity).contains path.identity with
    | true =>
        refine Or.inl (List.filter_congr fun d _ => ?_)
        by_cases alike : path.SpeltAlike d.path
        · rw [sameAnswer d alike, named, Bool.and_true]
        · simp [alike]
    | false =>
        refine Or.inr (List.filter_eq_nil_iff.mpr fun d _ => ?_)
        by_cases alike : path.SpeltAlike d.path
        · rw [sameAnswer d alike, named, Bool.and_false]
          exact Bool.false_ne_true
        · simp [alike]

/-- The entries of a scope are distinct exactly if the list names none of their paths twice. -/
theorem distinct_iff_of_select
    (selected : (select config environment branch documents).run git earlier = (.ok scope, calls)) :
    Document.Distinct scope.documents ↔
      ∀ d ∈ scope.documents, Document.spelling d.path documents = [d] := by
  rw [Document.distinct_iff]
  refine forall₂_congr fun d inScope => ?_
  rcases spelling_of_select selected d.path with same | none
  · rw [same]
  · exact absurd (Document.mem_spelling_self inScope) (by rw [none]; exact List.not_mem_nil)

end Scope

/-! ## Runs -/

namespace Occurrence

variable {context : Context} {files : Files} {policy : RetryPolicy} {probe : Probe} {o : Occurrence}
  {failure : Failure}

/-- What is reported of a link names the place at which it is written. -/
theorem origin_of_failureAlone?
    (found : o.failureAlone? context files policy probe = some failure) : failure.origin = o.origin := by
  cases address : o.address? context with
  | some url =>
      rw [failureAlone?_of_address? address] at found
      obtain ⟨flaw, -, rfl⟩ := Option.map_eq_some_iff.mp found
      rfl
  | none =>
      simp only [failureAlone?, address] at found
      obtain ⟨flaw, -, rfl⟩ := Option.map_eq_some_iff.mp found
      rfl

end Occurrence

variable {context : Context} {files : Files} {policy : RetryPolicy} {cap : Option Nat} {probe : Probe}
  {report : Report}

/-- What is reported of a path is what is reported of the links of all entries that spell it. -/
theorem filter_failures_perm (ended : (context.run files policy cap probe).result = .ok report)
    (path : Path) :
    (report.failures.filter (path.SpeltAlike ·.origin.document)).Perm
      ((Document.spelling path context.scope.documents).flatMap fun d =>
        (d.occurrences context files).filterMap
          (Occurrence.failureAlone? context files policy probe)) := by
  have ofDocument (d : Document) :
      ((d.occurrences context files).filterMap
        (Occurrence.failureAlone? context files policy probe)).filter
          (path.SpeltAlike ·.origin.document) =
      if path.SpeltAlike d.path then
        (d.occurrences context files).filterMap (Occurrence.failureAlone? context files policy probe)
      else [] := by
    have origin : ∀ f ∈ (d.occurrences context files).filterMap
        (Occurrence.failureAlone? context files policy probe), f.origin.document = d.path := by
      intro f member
      obtain ⟨o, inDocument, found⟩ := List.mem_filterMap.mp member
      obtain ⟨_, _, _, _, rfl⟩ := Document.mem_occurrences.mp inDocument
      rw [Occurrence.origin_of_failureAlone? found, Occurrence.origin]
    split
    · next alike =>
        exact List.filter_eq_self.mpr fun f member => by rw [origin f member]; exact decide_eq_true alike
    · next different =>
        exact List.filter_eq_nil_iff.mpr fun f member => by
          rw [origin f member]; simpa using different
  have all := (failures_perm_of_run_ok ended).filter fun f => path.SpeltAlike f.origin.document
  rw [Context.occurrences, List.filterMap_flatMap, List.filter_flatMap] at all
  simp only [ofDocument] at all
  rwa [Document.flatMap_spelling]

/-- Entries that spell one path are checked all together or not at all, so that a scope names a path twice
exactly if the list does. A report names documents as often as the scope does, and holds for each path the
failures of the links of all entries that spell it, each once. If the entries of a scope are distinct, no
document is checked twice or under two rules, and each of its failures is reported once. -/
theorem repeats_are_checked_as_listed {config : Config} {environment : Environment} {branch : String}
    {documents : List Document} {git : Behaviour} {earlier calls : List Call} {scope : Scope}
    (selected :
      (Scope.select config environment branch documents).run git earlier = (.ok scope, calls)) :
    (∀ path, Document.spelling path scope.documents = Document.spelling path documents ∨
      Document.spelling path scope.documents = []) ∧
    (Document.Distinct scope.documents ↔
      ∀ d ∈ scope.documents, Document.spelling d.path documents = [d]) ∧
    (Document.Distinct documents → Document.Distinct scope.documents) ∧
    ∀ (context : Context) (files : Files) (policy : RetryPolicy) (cap : Option Nat) (probe : Probe)
      (report : Report), context.scope = scope →
        (context.run files policy cap probe).result = .ok report →
      let failures (d : Document) := (d.occurrences context files).filterMap
        (Occurrence.failureAlone? context files policy probe)
      let reported (path : Path) := report.failures.filter (path.SpeltAlike ·.origin.document)
      report.documentsChecked = scope.documents.map Document.path ∧
      (∀ path, (reported path).Perm ((Document.spelling path scope.documents).flatMap failures)) ∧
      (Document.Distinct scope.documents →
        (report.documentsChecked.Pairwise fun p q => ¬ p.SpeltAlike q) ∧
        (∀ d ∈ scope.documents, ∀ e ∈ scope.documents, d.path.SpeltAlike e.path →
          d.allowLocal = e.allowLocal) ∧
        ∀ d ∈ scope.documents, (reported d.path).Perm (failures d)) := by
  have distinctInScope := Scope.distinct_iff_of_select selected
  refine ⟨Scope.spelling_of_select selected, distinctInScope, ?_, ?_⟩
  · intro distinct
    exact distinct.sublist (Scope.interleaves_of_select selected).sublist
  · rintro context files policy cap probe report rfl ended failures reported
    obtain ⟨checked, -⟩ := documents_of_run_ok ended
    refine ⟨checked, filter_failures_perm ended, ?_⟩
    intro distinct
    have alone := Document.distinct_iff.mp distinct
    refine ⟨?_, ?_, ?_⟩
    · rw [checked, List.pairwise_map]
      exact distinct
    · intro d inScope e alsoInScope alike
      have member := Document.mem_spelling.mpr ⟨alsoInScope, alike⟩
      rw [alone d inScope] at member
      rw [List.mem_singleton.mp member]
    · intro d inScope
      have all := filter_failures_perm ended d.path
      rwa [alone d inScope, List.flatMap_singleton] at all

/-- A document is listed under two spellings, but only another one has changed: what is checked is distinct,
and its one broken link is reported once. -/
theorem repeats_are_checked_as_listed_of_distinct_change :
    let git : Behaviour := fun _ call =>
      match call with
      | .currentBranch => .ok "topic"
      | .trackedBranch => .ok none
      | .remoteUrl _ => .ok ""
      | .fetch _ _ => .ok ()
      | .changedFiles _ _ => .ok [⟨"a.md"⟩]
    let config := { Config.standard ⟨"."⟩ with targetRepository := some "o/r" }
    let entry : Document := ⟨⟨"./a.md"⟩, true⟩
    let documents : List Document := [entry, ⟨⟨"b.md"⟩, true⟩, ⟨⟨"./b.md"⟩, false⟩]
    let scope : Scope := ⟨.changed "main", [entry], [⟨⟨"b.md"⟩, true⟩, ⟨⟨"./b.md"⟩, false⟩]⟩
    let calls : List Call :=
      [.fetch "https://github.com/o/r.git" "+main:_doclinks_target_ref",
        .changedFiles "_doclinks_target_ref" "HEAD"]
    let context : Context := ⟨⟨"."⟩, "topic", none, scope⟩
    let files : Files := ⟨fun _ => .ok "[x](c.md)".toUTF8, fun _ => false⟩
    let probe : Probe := fun _ _ => ⟨.code 200, 0⟩
    let report : Report :=
      ⟨"topic", .changed "main", [⟨"./a.md"⟩], [⟨"b.md"⟩, ⟨"./b.md"⟩], 1, [],
        [⟨⟨⟨"./a.md"⟩, "c.md", 1⟩, .missingLocalFile ⟨"c.md"⟩⟩]⟩
    (Scope.select config .empty "topic" documents).run git [] = (.ok scope, calls) ∧
      ¬ Document.Distinct documents ∧ Document.Distinct scope.documents ∧
      (context.run files .standard none probe).result = .ok report ∧
      (report.documentsChecked.Pairwise fun p q => ¬ p.SpeltAlike q) ∧
      (report.failures.filter (Path.SpeltAlike ⟨"./a.md"⟩ ·.origin.document)).Perm
        ((entry.occurrences context files).filterMap
          (Occurrence.failureAlone? context files .standard probe)) := by
  intro git config entry documents scope calls context files probe report
  have selected :
      (Scope.select config .empty "topic" documents).run git [] = (.ok scope, calls) := by
    decide +kernel
  have ended : (context.run files .standard none probe).result = .ok report := by decide +kernel
  have distinct : Document.Distinct scope.documents := by decide
  obtain ⟨-, -, -, runs⟩ := repeats_are_checked_as_listed selected
  obtain ⟨-, -, reported⟩ := runs context files .standard none probe report rfl ended
  obtain ⟨once, -, failures⟩ := reported distinct
  exact ⟨selected, by decide, distinct, ended, once, failures entry List.mem_cons_self⟩

/-- If a list names a document twice, under two spellings and with two rules, the document is read twice and
checked under both rules, and its one broken link is reported twice. -/
theorem listed_document_checked_twice :
    let text := "[\x7b\"path\": \"a.md\"\x7d, \x7b\"path\": \"./a.md\", \"allow_local\": false\x7d]"
    let files : Files :=
      { read := fun path => .ok (if path.text = "docs.json" then text.toUTF8 else "[x](b.md)".toUTF8)
        has := fun _ => false }
    let documents : List Document := [⟨⟨"a.md"⟩, true⟩, ⟨⟨"./a.md"⟩, false⟩]
    let context : Context := ⟨⟨"."⟩, "main", none, Scope.whole documents⟩
    let report : Report :=
      ⟨"main", .full, [⟨"a.md"⟩, ⟨"./a.md"⟩], [], 1, [],
        [⟨⟨⟨"a.md"⟩, "b.md", 1⟩, .missingLocalFile ⟨"b.md"⟩⟩, ⟨⟨⟨"./a.md"⟩, "b.md", 1⟩, .notAUrl⟩]⟩
    Context.listedDocuments files ⟨"docs.json"⟩ = .ok documents ∧
      (Scope.select (.standard ⟨"."⟩) .empty "main" documents).run (fun _ _ => .error ⟨"", ""⟩) [] =
        (.ok (Scope.whole documents), []) ∧
      ¬ Document.Distinct (Scope.whole documents).documents ∧
      (context.run files .standard none fun _ _ => ⟨.code 200, 0⟩).result = .ok report := by
  decide +kernel

end LinkGate
