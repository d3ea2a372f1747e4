import LinkGate.Proofs.DialogueRuns
import LinkGate.Proofs.LinkByLink
import LinkGate.Proofs.PathSpelling
import LinkGate.Proofs.TrimmedLines

/-!
# The division of a list of documents

A scope divides the documents of a list into those that are checked and those that are left out. Each
document of the list is in one of the two parts, as often as it is in the list, and both parts keep the order
of the list. On a branch the spelling of a path makes no difference to the part in which its document is.
What a scope holds is what the report of a run says about documents.
-/

namespace LinkGate

/-- Two lists that make up a third one: each entry of it is an entry of one of them, and both have their
entries in its order. -/
inductive Interleaves {α : Type} : List α → List α → List α → Prop where
  | nil : Interleaves [] [] []
  | first {entry : α} {chosen others all : List α} (rest : Interleaves chosen others all) :
      Interleaves (entry :: chosen) others (entry :: all)
  | second {entry : α} {chosen others all : List α} (rest : Interleaves chosen others all) :
      Interleaves chosen (entry :: others) (entry :: all)

namespace Interleaves

variable {α β : Type}

theorem whole (all : List α) : Interleaves all [] all := by
  induction all with
  | nil => exact .nil
  | cons entry rest ih => exact .first ih

theorem partition (keep : α → Bool) (all : List α) :
    Interleaves (all.partition keep).1 (all.partition keep).2 all := by
  rw [List.partition_eq_filter_filter]
  induction all with
  | nil => exact .nil
  | cons entry rest ih =>
      cases kept : keep entry with
      | true =>
          rw [List.filter_cons_of_pos kept, List.filter_cons_of_neg (by simp [kept])]
          exact .first ih
      | false =>
          rw [List.filter_cons_of_neg (by simp [kept]), List.filter_cons_of_pos (by simp [kept])]
          exact .second ih

/-- The first of two lists that make up a third one is part of it. -/
theorem sublist {chosen others all : List α} (divided : Interleaves chosen others all) :
    chosen.Sublist all := by
  induction divided with
  | nil => exact .slnil
  | first _ ih => exact .cons_cons _ ih
  | second _ ih => exact .cons _ ih

/-- What is read off the entries is divided as they are. -/
theorem map (f : α → β) {chosen others all : List α} (divided : Interleaves chosen others all) :
    Interleaves (chosen.map f) (others.map f) (all.map f) := by
  induction divided with
  | nil => exact .nil
  | first _ ih => exact .first ih
  | second _ ih => exact .second ih

end Interleaves

open Git

namespace Scope

variable {config : Config} {environment : Environment} {branch ref : String}
  {documents : List Document} {git : Behaviour} {earlier calls : List Call} {scope : Scope}

/-- Every scope divides the documents that it is selected from. -/
theorem interleaves_of_select
    (selected : (select config environment branch documents).run git earlier = (.ok scope, calls)) :
    Interleaves scope.documents scope.skipped documents := by
  rcases select_ok selected with ⟨-, rfl⟩ | ⟨-, -, changed, -, -, rfl⟩
  · exact .whole documents
  · exact .partition _ documents

/-- A warning tells the path of the document as it is spelt, and the branch without blanks behind it. -/
theorem skipWarning_eq (ref : String) (document : Document) :
    skipWarning ref document =
      "WARN skipping link checking, document is not changed relative to the target branch document=" ++
        document.path.text ++ " target_ref=" ++ String.ofList (Text.trimEnd ref.toList) := by
  have begins : Text.isWhitespace 'W' = false := by decide
  have ends : Text.isWhitespace '=' = false := by decide
  -- Nothing blank stands at the beginning, and the last part in front of the branch ends with a sign.
  let opening := "ARN skipping link checking, document is not changed relative to the target branch document="
  let inside := opening.toList ++ document.path.text.toList ++ " target_ref".toList
  have written (s : List Char) : String.ofList ('W' :: inside ++ '=' :: s) =
      "W" ++ opening ++ document.path.text ++ " target_ref=" ++ String.ofList s := by
    have marked : " target_ref=".toList = " target_ref".toList ++ ['='] := by decide
    apply String.toList_inj.mp
    simp [inside, marked]
  have trimmed : Text.trim (String.ofList ('W' :: inside ++ '=' :: ref.toList)) =
      String.ofList ('W' :: inside ++ '=' :: Text.trimEnd ref.toList) :=
    Text.trim_append begins ends ref.toList
  rw [written, written, String.ofList_toList] at trimmed
  have site : "WARN skipping link checking, document is not changed relative to the target branch document=" =
      "W" ++ opening := by decide
  rw [skipWarning, site]
  exact trimmed

/-- What is asked to find the scope of a branch, and how the answer divides the documents. -/
theorem changed_of_select
    (selected : (select config environment branch documents).run git earlier = (.ok scope, calls))
    (mode : scope.mode = .changed ref) :
    ∃ asked changed, calls = asked ++ [.changedFiles localTargetRef "HEAD"] ∧
      git asked (.changedFiles localTargetRef "HEAD") = .ok changed ∧
      ∀ d ∈ documents,
        (d ∈ scope.documents ↔ ∃ file ∈ changed, file.SpeltAlike d.path) ∧
        (d ∈ scope.skipped ↔ ¬ ∃ file ∈ changed, file.SpeltAlike d.path) := by
  rcases select_ok selected with ⟨-, rfl⟩ | ⟨-, asked, changed, all, answered, rfl⟩
  · contradiction
  · refine ⟨asked, changed, all, answered, ?_⟩
    intro d listed
    simp only [mem_ofChanges, listed, true_and, Path.identity_eq_iff, and_self]

end Scope

variable {context : Context} {files : Files} {policy : RetryPolicy} {cap : Option Nat} {probe : Probe}
  {report : Report}

/-- A report names the documents of the scope of its run. -/
theorem documents_of_run_ok (ended : (context.run files policy cap probe).result = .ok report) :
    report.documentsChecked = context.scope.documents.map Document.path ∧
      report.documentsSkipped = context.scope.skipped.map Document.path := by
  obtain ⟨scan, scanned, rfl⟩ := run_ok ended
  obtain ⟨-, -, added⟩ := Scan.scanDocuments_ok scanned
  exact ⟨added.documents, rfl⟩

/-- A scope that is selected divides the list of documents. All of it is checked in full, and of a branch
those documents whose paths are spellings of a changed file; there is one warning for each of the others, in
their order. The report of a run names the documents of both parts, so that no document of the list is lost. -/
theorem select_divides_documents {config : Config} {environment : Environment} {branch : String}
    {documents : List Document} {git : Behaviour} {earlier calls : List Call} {scope : Scope}
    (selected :
      (Scope.select config environment branch documents).run git earlier = (.ok scope, calls)) :
    let warnings := (Scope.select config environment branch documents).warnings git earlier
    Interleaves scope.documents scope.skipped documents ∧
    (scope.mode = .full → scope.skipped = [] ∧ warnings = []) ∧
    (∀ ref, scope.mode = .changed ref →
      (∃ asked changed, calls = asked ++ [.changedFiles Scope.localTargetRef "HEAD"] ∧
        git asked (.changedFiles Scope.localTargetRef "HEAD") = .ok changed ∧
        ∀ d ∈ documents,
          (d ∈ scope.documents ↔ ∃ file ∈ changed, file.SpeltAlike d.path) ∧
          (d ∈ scope.skipped ↔ ¬ ∃ file ∈ changed, file.SpeltAlike d.path)) ∧
      warnings = scope.skipped.map fun d =>
        "WARN skipping link checking, document is not changed relative to the target branch document=" ++
          d.path.text ++ " target_ref=" ++ String.ofList (Text.trimEnd ref.toList)) ∧
    ∀ (context : Context) (files : Files) (policy : RetryPolicy) (cap : Option Nat) (probe : Probe)
      (report : Report), context.scope = scope →
        (context.run files policy cap probe).result = .ok report →
          report.documentsChecked = scope.documents.map Document.path ∧
          report.documentsSkipped = scope.skipped.map Document.path ∧
          Interleaves report.documentsChecked report.documentsSkipped (documents.map Document.path) := by
  intro warnings
  have told : warnings = Scope.skipWarnings (.ok scope) := by
    simp only [warnings, Scope.warnings_select, selected]
  have divided := Scope.interleaves_of_select selected
  refine ⟨divided, ?_, ?_, ?_⟩
  · intro full
    rcases Scope.select_ok selected with ⟨-, rfl⟩ | ⟨-, -, changed, -, -, rfl⟩
    · exact ⟨rfl, told⟩
    · contradiction
  · intro ref mode
    refine ⟨Scope.changed_of_select selected mode, ?_⟩
    obtain ⟨_, checked, skipped⟩ := scope
    obtain rfl := mode
    exact told.trans (List.map_congr_left fun d _ => Scope.skipWarning_eq ref d)
  · rintro context files policy cap probe report rfl ended
    obtain ⟨checked, skipped⟩ := documents_of_run_ok ended
    refine ⟨checked, skipped, ?_⟩
    rw [checked, skipped]
    exact divided.map Document.path

/-- Two spellings of a changed file, around a document that did not change, and a run over both. -/
theorem select_divides_spellings :
    let git : Behaviour := fun _ call =>
      match call with
      | .currentBranch => .ok "topic"
      | .trackedBranch => .ok none
      | .remoteUrl _ => .ok ""
      | .fetch _ _ => .ok ()
      | .changedFiles _ _ => .ok [⟨"docs/a.md"⟩]
    let config := { Config.standard ⟨"."⟩ with targetRepository := some "o/r" }
    let documents : List Document :=
      [⟨⟨"./docs//a.md"⟩, true⟩, ⟨⟨"b.md"⟩, true⟩, ⟨⟨"docs/./a.md/"⟩, false⟩]
    let scope : Scope :=
      ⟨.changed "main", [⟨⟨"./docs//a.md"⟩, true⟩, ⟨⟨"docs/./a.md/"⟩, false⟩], [⟨⟨"b.md"⟩, true⟩]⟩
    let calls : List Call :=
      [.fetch "https://github.com/o/r.git" "+main:_doclinks_target_ref",
        .changedFiles "_doclinks_target_ref" "HEAD"]
    let files : Files := ⟨fun _ => .ok "text".toUTF8, fun _ => true⟩
    let run := (⟨⟨"."⟩, "topic", none, scope⟩ : Context).run files .standard none fun _ _ => ⟨.code 200, 1⟩
    let report : Report :=
      ⟨"topic", .changed "main", [⟨"./docs//a.md"⟩, ⟨"docs/./a.md/"⟩], [⟨"b.md"⟩], 0, [], []⟩
    (Scope.select config .empty "topic" documents).run git [] = (.ok scope, calls) ∧
      Interleaves scope.documents scope.skipped documents ∧
      ((⟨⟨"docs/./a.md/"⟩, false⟩ : Document) ∈ scope.documents ↔
        ∃ file ∈ [(⟨"docs/a.md"⟩ : Path)], file.SpeltAlike ⟨"docs/./a.md/"⟩) ∧
      ((Scope.select config .empty "topic" documents).warnings git []).length = 1 ∧
      run.result = .ok report ∧
      Interleaves report.documentsChecked report.documentsSkipped (documents.map Document.path) := by
  intro git config documents scope calls files run report
  have selected :
      (Scope.select config .empty "topic" documents).run git [] = (.ok scope, calls) := by
    decide +kernel
  have ended : run.result = .ok report := by decide +kernel
  obtain ⟨divided, -, changes, reported⟩ := select_divides_documents selected
  obtain ⟨-, -, whole⟩ := reported _ files .standard none _ report rfl ended
  obtain ⟨⟨asked, changed, -, answered, parts⟩, warnings⟩ := changes "main" rfl
  obtain rfl : [(⟨"docs/a.md"⟩ : Path)] = changed := Except.ok.inj answered
  have warned : ((Scope.select config .empty "topic" documents).warnings git []).length = 1 := by
    rw [warnings, List.length_map]
    rfl
  exact ⟨selected, divided, (parts ⟨⟨"docs/./a.md/"⟩, false⟩ (by decide)).1, warned, ended, whole⟩

end LinkGate
