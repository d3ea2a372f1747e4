import LinkGate.Check.Schedule
import LinkGate.Markdown.Extract
import LinkGate.Report.Verdicts
import LinkGate.Target

/-!
# Runs

A run reads the documents in its scope one after the other and judges their links: files are looked
for at once, web addresses are gathered. Then all addresses are checked, and what was found makes up
the report. A document that cannot be read, or a heading without an address, ends a run before any
request is made.
-/

namespace LinkGate

structure Scan where
  verdicts : Verdicts
  links : LinkSet
deriving DecidableEq, Repr

namespace Scan

def empty : Scan := ⟨.empty, .empty⟩

def addLink (scan : Scan) (url : String) (origin : Origin) : Scan :=
  { scan with links := (scan.links.insert url origin).2 }

def anchorUrl (baseUrl : Option String) (document fragment : String) (origin : Origin) :
    Except RunError String :=
  match baseUrl with
  | none => .error (.anchorWithoutBase origin.document origin.target)
  | some base => .ok (Target.anchorUrl base document fragment)

def scanLink (context : Context) (files : Files) (document : Document) (link : Markdown.RawLink)
    (scan : Scan) : Except RunError Scan :=
  let origin : Origin := ⟨document.path, link.target, link.line⟩
  match Target.classify link.target document.path document.allowLocal with
  | .error .notAUrl => .ok { scan with verdicts := scan.verdicts.notAUrl origin }
  | .ok (.localFile path) =>
    .ok { scan with verdicts := scan.verdicts.checkLocal files context.root path origin }
  | .ok (.remote url) => .ok (scan.addLink url origin)
  | .ok (.anchor target fragment) =>
    (anchorUrl context.baseUrl target fragment origin).map fun url => scan.addLink url origin

/-- Judges links one after the other, up to the first one that ends the run. -/
def scanLinks (context : Context) (files : Files) (document : Document) :
    List Markdown.RawLink → Scan → Except RunError Unit × Scan
  | [], scan => (.ok (), scan)
  | link :: links, scan =>
    match scanLink context files document link scan with
    | .error e => (.error e, scan)
    | .ok scan => scanLinks context files document links scan

def scanText (context : Context) (files : Files) (document : Document) (text : String)
    (scan : Scan) : Except RunError Unit × Scan :=
  scanLinks context files document (Markdown.extractLinks text)
    { scan with verdicts := scan.verdicts.documentChecked document.path }

def scanDocument (context : Context) (files : Files) (document : Document) (scan : Scan) :
    Except RunError Scan :=
  match files.readText (context.root.join document.path) with
  | .error cause => .error (.unreadableDocument document.path cause)
  | .ok text =>
    match scanText context files document text scan with
    | (.error e, _) => .error e
    | (.ok (), scan) => .ok scan

def scanDocuments (context : Context) (files : Files) (documents : List Document) (scan : Scan) :
    Except RunError Scan :=
  documents.foldlM (fun scan document => scanDocument context files document scan) scan

end Scan

structure Run where
  result : Except RunError Report
  requests : List Check.Request

def Context.run (context : Context) (files : Files) (policy : RetryPolicy) (cap : Option Nat)
    (probe : Probe) : Run :=
  match Scan.scanDocuments context files context.scope.documents .empty with
  | .error e => ⟨.error e, []⟩
  | .ok scan =>
    let checks := Check.runAll policy probe cap scan.links.urls
    ⟨.ok (scan.verdicts.finish scan.links (Check.sortOutcomes checks.finished) context),
      checks.requests⟩

end LinkGate
