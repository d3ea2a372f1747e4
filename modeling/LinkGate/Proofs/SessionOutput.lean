import LinkGate.Proofs.CheckAnyOrder
import LinkGate.Proofs.JsonSwitch
import LinkGate.Proofs.ReportReading
import LinkGate.Proofs.TableLines
import LinkGate.Session

/-!
# What a session writes

A session with an accepted command line fails before it knows what to check, fails after that, or comes to
a report. Its code tells these apart, and whether a link failed. For other programs it writes the report
and nothing else; for people it writes notes as soon as it knows what to check, and then the report.
-/

namespace LinkGate

open CommandLine

/-- What people are told about a scope: a line for each document that is skipped, and a last one about
those that are checked. -/
def Scope.announcement (scope : Scope) : String :=
  String.join (scope.skipped.map fun document =>
    "⏭\ufe0f  Skipping link checking of " ++ document.path.text ++
      " because it is not changed in this branch\n") ++
  match scope.documents with
  | [] => "✅ No documents in scope, nothing to check\n"
  | documents => "📄 Checking links in " ++ toString documents.length ++ " document(s)\n"

namespace Report

def shownOutcomes (outcomes : List Outcome) : String :=
  if outcomes = [] then ""
  else
    "\nURL" ++ String.ofList (List.replicate 67 ' ') ++ " STATUS" ++
      String.ofList (List.replicate 14 ' ') ++ " ATTEMPTS\n" ++
      String.ofList (List.replicate 100 '=') ++ "\n" ++
      String.join (outcomes.map fun outcome => Table.outcomeRow outcome ++ "\n")

def shownFailures (failures : List Failure) : String :=
  if failures = [] then ""
  else
    "\n" ++ "❌ Broken links:" ++ "\n" ++ String.join (failures.map fun failure => "   " ++ failure.text ++ "\n")

def shownMode : Scope.Mode → String
  | .full => "all documents"
  | .changed ref => "documents changed relative to " ++ ref

def shownSummary (report : Report) : String :=
  "\n" ++ "📊 Summary:" ++ "\n" ++
  "   🌿 Branch: " ++ report.branch ++ "\n" ++
  "   🔎 Scope: " ++ shownMode report.mode ++ "\n" ++
  "   📄 Documents checked: " ++ toString report.documentsChecked.length ++ "\n" ++
  "   ⏭\ufe0f  Documents skipped: " ++ toString report.documentsSkipped.length ++ "\n" ++
  "   📁 Local links: " ++ toString report.localLinksChecked ++ "\n" ++
  "   🌐 Unique URLs: " ++ toString report.outcomes.length ++
    " (" ++ toString (report.outcomes.countP (·.isOk)) ++ " OK)" ++ "\n" ++
  "   ❌ Broken: " ++ toString report.failures.length ++ "\n"

/-- What people are told about a report. -/
def shown (report : Report) : String :=
  shownOutcomes report.outcomes ++ shownFailures report.failures ++ shownSummary report

variable (report : Report)

end Report

namespace Session

variable {options : Options} {world : World} {context : Context} {report : Report}

/-- A session fails, with what it knows to check by then. -/
inductive Fails (options : Options) (world : World) : Option Context → Prop where
  /-- It cannot be found out what to check. -/
  | undetermined {e : RunError} (failed : Session.context options world = .error e) :
      Fails options world none
  /-- No request can be made. -/
  | unconnected {context : Context} {message : String}
      (built : Session.context options world = .ok context)
      (failed : world.network options.config.timeout = .error message) :
      Fails options world (some context)
  /-- The links cannot be checked. -/
  | stopped {context : Context} {probe : Probe} {e : RunError}
      (built : Session.context options world = .ok context)
      (connected : world.network options.config.timeout = .ok probe)
      (failed : (context.run world.files options.config.retry options.config.maxConcurrency
        probe).result = .error e) :
      Fails options world (some context)

/-- A session knows what to check and comes to a report. -/
inductive Reports (options : Options) (world : World) : Context → Report → Prop where
  | completed {context : Context} {report : Report} {probe : Probe}
      (built : Session.context options world = .ok context)
      (connected : world.network options.config.timeout = .ok probe)
      (ended : (context.run world.files options.config.retry options.config.maxConcurrency
        probe).result = .ok report) :
      Reports options world context report

theorem join_notes (scope : Scope) :
    String.join ((notes scope).map (· ++ "\n")) = scope.announcement := by
  have unchanged : " because it is not changed in this branch" ++ "\n" =
      " because it is not changed in this branch\n" := by
    decide
  have checked : " document(s)" ++ "\n" = " document(s)\n" := by decide
  change Text.written (notes scope) = scope.announcement
  rw [notes, Text.written_append, Text.written_map, Scope.announcement]
  simp only [String.append_assoc, unchanged]
  cases scope.documents with
  | nil => rfl
  | cons document rest =>
      simp only [List.isEmpty_cons, Bool.false_eq_true, if_false, Text.written_cons, Text.written_nil,
        String.append_assoc, String.append_empty, checked]

/-- Notes go beside the report for other programs and before the report for people. -/
theorem transcript_output (json : Bool) (notes output errors : String) (code : UInt8) :
    (transcript json notes output errors code).output = if json then output else notes ++ output := by
  cases json <;> rfl

theorem transcript_code (json : Bool) (notes output errors : String) (code : UInt8) :
    (transcript json notes output errors code).code = code := by
  cases json <;> rfl

/-- What a session writes that ends without a report after it knows what to check. -/
theorem run_of_report_error {e : RunError} (built : Session.context options world = .ok context)
    (failed : Session.report options world context = .error e) :
    (run options world).code = 2 ∧
      (run options world).output = if options.json then "" else context.scope.announcement := by
  have ended : run options world =
      transcript options.json context.scope.announcement "" (errorLine none e) 2 := by
    simp only [run, built, failed, join_notes]
  rw [ended, transcript_code, transcript_output, String.append_empty]
  exact ⟨rfl, rfl⟩

/-- A session that fails ends with the code 2, and writes at most its notes. -/
theorem Fails.run {reached : Option Context} (fails : Fails options world reached) :
    (run options world).code = 2 ∧
      (run options world).output =
        if options.json then "" else (reached.map (·.scope.announcement)).getD "" := by
  cases fails with
  | undetermined failed => simp [Session.run, failed]
  | @unconnected context message built failed =>
      exact run_of_report_error (e := .noClient message) built (by rw [Session.report, failed])
  | stopped built connected failed =>
      exact run_of_report_error built (by simpa only [Session.report, connected] using failed)

/-- A session with a report tells whether all links work, and writes the report. -/
theorem Reports.run (reports : Reports options world context report) :
    (run options world).code = (if report.failures = [] then 0 else 1) ∧
      (run options world).output =
        if options.json then report.jsonText else context.scope.announcement ++ report.tableText := by
  obtain ⟨built, connected, completed⟩ := reports
  have ended : Session.run options world =
      transcript options.json context.scope.announcement (reportText options report) ""
        (if report.passed then 0 else 1) := by
    simp only [Session.run, Session.report, built, connected, completed, join_notes]
  rw [ended, transcript_code, transcript_output]
  refine ⟨?_, ?_⟩
  · simp [Report.passed]
  · unfold reportText
    split <;> rfl

/-! ## What the code says -/

end Session

end LinkGate
