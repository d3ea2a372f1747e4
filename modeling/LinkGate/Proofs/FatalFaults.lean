import LinkGate.Proofs.ScanFindings

/-!
# What ends a run early

A document that cannot be read and a heading without an address are faults: they make a run meaningless.
Documents have their faults in the order in which they are scanned, and a run ends with the first of
them, before it makes any request.
-/

namespace LinkGate

/-- The faults of a document: that it cannot be read, or its links that lead to headings while the address
of rendered documents is not known. -/
def Document.faults (context : Context) (files : Files) (document : Document) : List RunError :=
  match files.readText (context.root.join document.path) with
  | .error cause => [.unreadableDocument document.path cause]
  | .ok text =>
    ((Markdown.extractLinks text).filter fun link =>
      (⟨document, link⟩ : Occurrence).isLost context).map fun link =>
        .anchorWithoutBase document.path link.target

/-- The faults of all documents in the scope, in the order in which they are scanned. -/
def Context.faults (context : Context) (files : Files) : List RunError :=
  context.scope.documents.flatMap (Document.faults context files)

variable {context : Context} {files : Files} {document : Document} {scan : Scan} {e : RunError}

/-! ## One document -/

/-- A link is lost if it leads to a heading and the address of rendered documents is not known. -/
theorem Occurrence.isLost_iff {o : Occurrence} :
    o.isLost context = true ↔
      context.baseUrl = none ∧ ∃ heading fragment, o.meaning = .ok (.anchor heading fragment) := by
  unfold isLost
  cases o.meaning with
  | error violation => simp
  | ok target =>
      cases target with
      | anchor heading fragment => simp [Option.isNone_iff_eq_none]
      | localFile path => simp
      | remote url => simp

/-- Only where relative links are allowed a target leads to a heading. -/
theorem Occurrence.allowLocal_of_anchor {o : Occurrence} {heading fragment : String}
    (meaning : o.meaning = .ok (.anchor heading fragment)) : o.document.allowLocal = true := by
  unfold Occurrence.meaning Target.classify at meaning
  split at meaning
  · next allowed => exact allowed
  · split at meaning <;> simp at meaning

/-- A document has faults if it cannot be read, or if one of its links is lost. -/
theorem Document.faults_ne_nil_iff :
    document.faults context files ≠ [] ↔
      (∀ text, files.readText (context.root.join document.path) ≠ .ok text) ∨
        ∃ text, files.readText (context.root.join document.path) = .ok text ∧
          ∃ link ∈ Markdown.extractLinks text, (⟨document, link⟩ : Occurrence).isLost context = true := by
  unfold Document.faults
  cases read : files.readText (context.root.join document.path) with
  | error cause => simp
  | ok text =>
      rw [ne_eq, List.map_eq_nil_iff, List.filter_eq_nil_iff]
      simp

/-- The scan of a document ends with its first fault, whatever was scanned before. -/
theorem Scan.scanDocument_eq_error_iff :
    scanDocument context files document scan = .error e ↔
      (document.faults context files).head? = some e := by
  unfold scanDocument Document.faults
  cases read : files.readText (context.root.join document.path) with
  | error cause => simp
  | ok text =>
      have ended := (scanLinks_spec context files document (Markdown.extractLinks text)
        { scan with verdicts := scan.verdicts.documentChecked document.path }).1
      simp only [List.head?_map, List.head?_filter]
      unfold scanText
      split
      · next failure _ scanned =>
          rw [scanned] at ended
          split at ended
          · contradiction
          · next link found =>
              obtain rfl := Except.error.inj ended
              simp [found]
      · next scanned =>
          rw [scanned] at ended
          split at ended
          · next none => simp [none]
          · contradiction

/-! ## All documents -/

/-- The scan of documents ends with the first fault of the first document that has one. -/
theorem Scan.scanDocuments_eq_error_iff {documents : List Document} :
    scanDocuments context files documents scan = .error e ↔
      (documents.flatMap (Document.faults context files)).head? = some e := by
  induction documents generalizing scan with
  | nil => simp [scanDocuments, pure, Except.pure]
  | cons document rest ih =>
      rw [List.flatMap_cons, List.head?_append, scanDocuments, List.foldlM_cons]
      cases first : scanDocument context files document scan with
      | error failure =>
          have fault := scanDocument_eq_error_iff.mp first
          simp [fault, bind, Except.bind]
      | ok next =>
          have noFault : (document.faults context files).head? = none := by
            apply Option.eq_none_iff_forall_ne_some.mpr
            intro failure fault
            rw [scanDocument_eq_error_iff.mpr fault] at first
            contradiction
          rw [noFault, Option.none_or]
          exact ih

/-- Some document has a fault if it cannot be read, or if it leads to a heading while the address of
rendered documents is not known. -/
theorem Context.faults_ne_nil_iff :
    context.faults files ≠ [] ↔
      (∃ document ∈ context.scope.documents, ∀ text,
        files.readText (context.root.join document.path) ≠ .ok text) ∨
      context.baseUrl = none ∧ ∃ document ∈ context.scope.documents, document.allowLocal = true ∧
        ∃ text, files.readText (context.root.join document.path) = .ok text ∧
          ∃ link ∈ Markdown.extractLinks text, ∃ heading fragment,
            Target.classify link.target document.path document.allowLocal =
              .ok (.anchor heading fragment) := by
  have some_faults : context.faults files ≠ [] ↔
      ∃ document ∈ context.scope.documents, document.faults context files ≠ [] := by
    simp [Context.faults, List.flatMap_eq_nil_iff]
  rw [some_faults]
  constructor
  · rintro ⟨document, inScope, faults⟩
    rcases Document.faults_ne_nil_iff.mp faults with unreadable | ⟨text, read, link, found, lost⟩
    · exact Or.inl ⟨document, inScope, unreadable⟩
    · obtain ⟨unknown, heading, fragment, meaning⟩ := Occurrence.isLost_iff.mp lost
      have allowed := Occurrence.allowLocal_of_anchor meaning
      exact Or.inr ⟨unknown, document, inScope, allowed, text, read, link, found, heading, fragment,
        meaning⟩
  · rintro (⟨document, inScope, unreadable⟩ |
      ⟨unknown, document, inScope, -, text, read, link, found, heading, fragment, meaning⟩)
    · exact ⟨document, inScope, Document.faults_ne_nil_iff.mpr (Or.inl unreadable)⟩
    · refine ⟨document, inScope, Document.faults_ne_nil_iff.mpr (Or.inr ⟨text, read, link, found, ?_⟩)⟩
      exact Occurrence.isLost_iff.mpr ⟨unknown, heading, fragment, meaning⟩

/-! ## Runs -/

variable {policy : RetryPolicy} {cap : Option Nat} {probe : Probe}

theorem result_eq_error_iff :
    (context.run files policy cap probe).result = .error e ↔
      Scan.scanDocuments context files context.scope.documents .empty = .error e := by
  unfold Context.run
  cases Scan.scanDocuments context files context.scope.documents .empty with
  | error failure => simp
  | ok scan => simp

theorem requests_of_result_eq_error
    (failed : (context.run files policy cap probe).result = .error e) :
    (context.run files policy cap probe).requests = [] := by
  rw [Context.run, result_eq_error_iff.mp failed]

/-- A run fails if a document cannot be read as a text, or if a link leads to a heading while the address
of rendered documents is not known. It fails with the first such fault in the order of the documents and
of the links in each, and without a single request. -/
theorem run_fails_with_first_fault (context : Context) (files : Files) (policy : RetryPolicy)
    (cap : Option Nat) (probe : Probe) :
    let run := context.run files policy cap probe
    ((∃ e, run.result = .error e) ↔
      (∃ document ∈ context.scope.documents, ∀ text,
        files.readText (context.root.join document.path) ≠ .ok text) ∨
      context.baseUrl = none ∧ ∃ document ∈ context.scope.documents, document.allowLocal = true ∧
        ∃ text, files.readText (context.root.join document.path) = .ok text ∧
          ∃ link ∈ Markdown.extractLinks text, ∃ heading fragment,
            Target.classify link.target document.path document.allowLocal =
              .ok (.anchor heading fragment)) ∧
    (∀ e, run.result = .error e ↔ (context.faults files).head? = some e) ∧
    ∀ e, run.result = .error e → run.requests = [] := by
  intro run
  have first (e : RunError) : run.result = .error e ↔ (context.faults files).head? = some e :=
    result_eq_error_iff.trans Scan.scanDocuments_eq_error_iff
  refine ⟨?_, first, fun _ failed => requests_of_result_eq_error failed⟩
  rw [← Context.faults_ne_nil_iff, ← List.isSome_head?, Option.isSome_iff_exists]
  exact exists_congr first

/-- A document with an address, one with a heading that has none, and one that is not there. -/
theorem run_fails_with_first_of_two_faults :
    let context : Context :=
      ⟨⟨"."⟩, "main", none, Scope.whole [⟨⟨"a.md"⟩, true⟩, ⟨⟨"b.md"⟩, true⟩, ⟨⟨"c.md"⟩, true⟩]⟩
    let files : Files :=
      { read := fun path =>
          if path.text = "./a.md" then .ok "[x](http://[::1]/)".toUTF8
          else if path.text = "./b.md" then .ok "[y](#use)".toUTF8
          else .error .notFound
        has := fun _ => false }
    let run := context.run files .standard none fun _ _ => ⟨.code 200, 1⟩
    context.faults files =
        [.anchorWithoutBase ⟨"b.md"⟩ "#use", .unreadableDocument ⟨"c.md"⟩ .notFound] ∧
      run.result = .error (.anchorWithoutBase ⟨"b.md"⟩ "#use") ∧ run.requests = [] := by
  intro context files run
  have faults : context.faults files =
      [.anchorWithoutBase ⟨"b.md"⟩ "#use", .unreadableDocument ⟨"c.md"⟩ .notFound] := by
    decide +kernel
  obtain ⟨-, first, silent⟩ :=
    run_fails_with_first_fault context files .standard none fun _ _ => ⟨.code 200, 1⟩
  have failed := (first (.anchorWithoutBase ⟨"b.md"⟩ "#use")).mpr (by rw [faults, List.head?_cons])
  exact ⟨faults, failed, silent _ failed⟩

end LinkGate
