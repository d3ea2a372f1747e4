import LinkGate.Proofs.LinkHistory
import LinkGate.Run
import Mathlib.Data.List.TakeWhile

/-!
# What a scan finds

Each link of a document is found to be one thing: rejected, the name of a file that is there or not, an
address to request, or a heading without an address. `Scanned` says what links add to what has been
gathered before; what they add does not depend on it. A scan adds its links one after the other, up to
the first heading without an address.
-/

namespace LinkGate

structure Occurrence where
  document : Document
  link : Markdown.RawLink

namespace Occurrence

variable (context : Context) (files : Files) (o : Occurrence)

def origin : Origin :=
  ⟨o.document.path, o.link.target, o.link.line⟩

def meaning : Except Target.Violation Target :=
  Target.classify o.link.target o.document.path o.document.allowLocal

def isLocal : Bool :=
  match o.meaning with
  | .ok (.localFile _) => true
  | _ => false

/-- Whether a link leads to a heading and the address of rendered documents is not known. -/
def isLost : Bool :=
  match o.meaning with
  | .ok (.anchor _ _) => context.baseUrl.isNone
  | _ => false

/-- The address that tells whether a link works. -/
def address? : Option String :=
  match o.meaning with
  | .ok (.remote url) => some url
  | .ok (.anchor document fragment) => context.baseUrl.map (· ++ document ++ "#" ++ fragment)
  | _ => none

def flaw? : Option Flaw :=
  match o.meaning with
  | .error .notAUrl => some .notAUrl
  | .ok (.localFile path) =>
    if path.isAbsolute = false ∧ files.has (context.root.join path) = true then none
    else some (.missingLocalFile path)
  | _ => none

def failure? : Option Failure :=
  (o.flaw? context files).map (⟨o.origin, ·⟩)

def written? : Option (String × Origin) :=
  (o.address? context).map (·, o.origin)

variable {context o}

theorem isLocal_of_address? {url : String} (address : o.address? context = some url) :
    o.isLocal = false := by
  unfold address? at address
  unfold isLocal
  split at address <;> simp_all

/-- A link with an address shows no flaw before it is requested. -/
theorem flaw?_of_address? {url : String} (address : o.address? context = some url) :
    o.flaw? context files = none := by
  unfold address? at address
  unfold flaw?
  split at address <;> simp_all

end Occurrence

/-- The links of a document. A document that cannot be read has none. -/
def Document.occurrences (context : Context) (files : Files) (document : Document) :
    List Occurrence :=
  match files.readText (context.root.join document.path) with
  | .error _ => []
  | .ok text => (Markdown.extractLinks text).map (⟨document, ·⟩)

theorem Document.mem_occurrences {context : Context} {files : Files} {document : Document}
    {o : Occurrence} :
    o ∈ document.occurrences context files ↔
      ∃ text, files.readText (context.root.join document.path) = .ok text ∧
        ∃ link ∈ Markdown.extractLinks text, (⟨document, link⟩ : Occurrence) = o := by
  unfold Document.occurrences
  cases read : files.readText (context.root.join document.path) with
  | error cause => simp
  | ok text => simp

/-- The links of all documents in the scope, in the order of the documents and of the links in each. -/
def Context.occurrences (context : Context) (files : Files) : List Occurrence :=
  context.scope.documents.flatMap (Document.occurrences context files)

/-- What `documents` and the links `seen` in them add to a scan. -/
structure Scanned (context : Context) (files : Files) (documents : List Path)
    (seen : List Occurrence) (before after : Scan) : Prop where
  documents :
    after.verdicts.documentsChecked = before.verdicts.documentsChecked ++ documents
  localLinks :
    after.verdicts.localLinksChecked =
      before.verdicts.localLinksChecked + seen.countP Occurrence.isLocal
  failures :
    after.verdicts.failures =
      before.verdicts.failures ++ seen.filterMap (Occurrence.failure? context files)
  links : after.links = before.links.insertAll (seen.filterMap (Occurrence.written? context))

namespace Scanned

variable {context : Context} {files : Files} {documents others : List Path}
  {seen further : List Occurrence} {before between after : Scan}

theorem refl (scan : Scan) : Scanned context files [] [] scan scan :=
  ⟨(List.append_nil _).symm, rfl, (List.append_nil _).symm, rfl⟩

theorem trans (first : Scanned context files documents seen before between)
    (second : Scanned context files others further between after) :
    Scanned context files (documents ++ others) (seen ++ further) before after where
  documents := by rw [second.documents, first.documents, List.append_assoc]
  localLinks := by rw [second.localLinks, first.localLinks, List.countP_append, Nat.add_assoc]
  failures := by
    rw [second.failures, first.failures, List.filterMap_append, List.append_assoc]
  links := by rw [second.links, first.links, List.filterMap_append, LinkSet.insertAll_append]

variable {o : Occurrence} (scan : Scan)

theorem document (context : Context) (files : Files) (path : Path) :
    Scanned context files [path] [] scan
      { scan with verdicts := scan.verdicts.documentChecked path } :=
  ⟨rfl, rfl, (List.append_nil _).symm, rfl⟩

theorem rejected (meaning : o.meaning = .error .notAUrl) :
    Scanned context files [] [o] scan
      { scan with verdicts := scan.verdicts.notAUrl o.origin } := by
  have noFile : o.isLocal = false := by simp only [Occurrence.isLocal, meaning]
  have noAddress : o.address? context = none := by simp only [Occurrence.address?, meaning]
  have flaw : o.flaw? context files = some .notAUrl := by simp only [Occurrence.flaw?, meaning]
  refine ⟨?_, ?_, ?_, ?_⟩ <;>
    simp [Verdicts.notAUrl, Verdicts.fail, Occurrence.failure?, Occurrence.written?, noFile,
      noAddress, flaw]

/-- The name of a file is counted, and adds a failure if there is no such file. -/
theorem localFile {path : Path} (meaning : o.meaning = .ok (.localFile path)) :
    Scanned context files [] [o] scan
      { scan with verdicts := scan.verdicts.checkLocal files context.root path o.origin } := by
  have file : o.isLocal = true := by simp only [Occurrence.isLocal, meaning]
  have noAddress : o.address? context = none := by simp only [Occurrence.address?, meaning]
  have flaw : o.flaw? context files =
      if Verdicts.localExists files context.root path then none
      else some (.missingLocalFile path) := by
    simp only [Occurrence.flaw?, meaning, Verdicts.localExists, Bool.and_eq_true,
      Bool.not_eq_true']
  cases found : Verdicts.localExists files context.root path <;>
    refine ⟨?_, ?_, ?_, ?_⟩ <;>
      simp [Verdicts.checkLocal, Verdicts.fail, Occurrence.failure?, Occurrence.written?, file,
        noAddress, flaw, found]

theorem address {url : String} (address : o.address? context = some url) :
    Scanned context files [] [o] scan (scan.addLink url o.origin) := by
  have noFile := Occurrence.isLocal_of_address? address
  have noFlaw := Occurrence.flaw?_of_address? files address
  refine ⟨?_, ?_, ?_, ?_⟩ <;>
    simp [Scan.addLink, Occurrence.failure?, Occurrence.written?, noFile, noFlaw, address]

end Scanned

namespace Scan

variable {context : Context} {files : Files} {document : Document} {link : Markdown.RawLink}
  {links : List Markdown.RawLink} {scan after : Scan}

theorem scanLink_of_isLost (files : Files) (scan : Scan)
    (lost : (⟨document, link⟩ : Occurrence).isLost context = true) :
    scanLink context files document link scan =
      .error (.anchorWithoutBase document.path link.target) := by
  simp only [Occurrence.isLost, Occurrence.meaning] at lost
  split at lost
  · next heading fragment meaning =>
      have unknown := Option.isNone_iff_eq_none.mp lost
      simp only [scanLink, meaning, anchorUrl, unknown, Except.map]
  · contradiction

theorem scanLink_of_not_isLost (files : Files) (scan : Scan)
    (kept : (⟨document, link⟩ : Occurrence).isLost context = false) :
    ∃ after, scanLink context files document link scan = .ok after ∧
      Scanned context files [] [⟨document, link⟩] scan after := by
  cases meaning : Target.classify link.target document.path document.allowLocal with
  | error violation =>
      cases violation
      exact ⟨_, by simp only [scanLink, meaning]; rfl, .rejected scan meaning⟩
  | ok target =>
      cases target with
      | localFile path => exact ⟨_, by simp only [scanLink, meaning]; rfl, .localFile scan meaning⟩
      | remote url =>
          refine ⟨_, by simp only [scanLink, meaning]; rfl, .address scan ?_⟩
          simp only [Occurrence.address?, Occurrence.meaning, meaning]
      | anchor heading fragment =>
          cases known : context.baseUrl with
          | none => simp [Occurrence.isLost, Occurrence.meaning, meaning, known] at kept
          | some base =>
              refine ⟨_, by simp only [scanLink, meaning, anchorUrl, known, Except.map]; rfl,
                .address scan ?_⟩
              simp only [Occurrence.address?, Occurrence.meaning, meaning, known, Option.map_some,
                Target.anchorUrl]

/-- Links are added up to the first heading without an address, which ends the scan. -/
theorem scanLinks_spec (context : Context) (files : Files) (document : Document)
    (links : List Markdown.RawLink) (scan : Scan) :
    let lost := fun link => (⟨document, link⟩ : Occurrence).isLost context
    (scanLinks context files document links scan).1 =
      (match links.find? lost with
        | none => .ok ()
        | some link => .error (.anchorWithoutBase document.path link.target)) ∧
    Scanned context files [] ((links.takeWhile fun link => !lost link).map (⟨document, ·⟩)) scan
      (scanLinks context files document links scan).2 := by
  intro lost
  induction links generalizing scan with
  | nil => exact ⟨rfl, .refl scan⟩
  | cons link rest ih =>
      cases isLost : lost link with
      | true =>
          have ended := scanLink_of_isLost files scan isLost
          simp only [scanLinks, ended, List.find?_cons, isLost, List.takeWhile_cons, Bool.not_true]
          exact ⟨trivial, .refl scan⟩
      | false =>
          -- What the first link adds is in front of what the others add.
          obtain ⟨next, continued, added⟩ := scanLink_of_not_isLost files scan isLost
          simp only [scanLinks, continued, List.find?_cons, isLost, List.takeWhile_cons, Bool.not_false,
            if_true, List.map_cons]
          exact ⟨(ih next).1, added.trans (ih next).2⟩

theorem scanLinks_ok (ended : scanLinks context files document links scan = (.ok (), after)) :
    (∀ link ∈ links, (⟨document, link⟩ : Occurrence).isLost context = false) ∧
      Scanned context files [] (links.map (⟨document, ·⟩)) scan after := by
  obtain ⟨result, added⟩ := scanLinks_spec context files document links scan
  rw [ended] at result added
  have noneLost : links.find? (fun link => (⟨document, link⟩ : Occurrence).isLost context) = none := by
    split at result
    · assumption
    · exact absurd result (by simp)
  have kept : ∀ link ∈ links, (⟨document, link⟩ : Occurrence).isLost context = false :=
    fun link member => Bool.eq_false_iff.mpr (List.find?_eq_none.mp noneLost link member)
  have all : links.takeWhile (fun link => !(⟨document, link⟩ : Occurrence).isLost context) = links :=
    List.takeWhile_eq_self_iff.mpr fun link member => by rw [kept link member, Bool.not_false]
  rw [all] at added
  exact ⟨kept, added⟩

theorem scanText_spec (context : Context) (files : Files) (document : Document) (text : String)
    (scan : Scan) :
    let lost := fun link => (⟨document, link⟩ : Occurrence).isLost context
    (scanText context files document text scan).1 =
      (match (Markdown.extractLinks text).find? lost with
        | none => .ok ()
        | some link => .error (.anchorWithoutBase document.path link.target)) ∧
    Scanned context files [document.path]
      (((Markdown.extractLinks text).takeWhile fun link => !lost link).map (⟨document, ·⟩)) scan
      (scanText context files document text scan).2 := by
  intro lost
  obtain ⟨ended, added⟩ := scanLinks_spec context files document (Markdown.extractLinks text)
    { scan with verdicts := scan.verdicts.documentChecked document.path }
  exact ⟨ended, (Scanned.document scan context files document.path).trans added⟩

/-- A document that is read to its end can be read, and each of its links is added. -/
theorem scanDocument_ok (ended : scanDocument context files document scan = .ok after) :
    (∃ text, files.readText (context.root.join document.path) = .ok text) ∧
      (∀ o ∈ document.occurrences context files, o.isLost context = false) ∧
      Scanned context files [document.path] (document.occurrences context files) scan after := by
  cases read : files.readText (context.root.join document.path) with
  | error cause => simp only [scanDocument, read, reduceCtorEq] at ended
  | ok text =>
      have begun := Scanned.document scan context files document.path
      simp only [scanDocument, read, scanText] at ended
      split at ended
      · exact absurd ended (by simp)
      · next scanned =>
          obtain ⟨kept, added⟩ := scanLinks_ok scanned
          obtain rfl := Except.ok.inj ended
          simp only [Document.occurrences, read]
          exact ⟨⟨text, rfl⟩, List.forall_mem_map.mpr kept, begun.trans added⟩

theorem scanDocuments_ok {documents : List Document}
    (ended : scanDocuments context files documents scan = .ok after) :
    (∀ d ∈ documents, ∃ text, files.readText (context.root.join d.path) = .ok text) ∧
      (∀ o ∈ documents.flatMap (Document.occurrences context files), o.isLost context = false) ∧
      Scanned context files (documents.map Document.path)
        (documents.flatMap (Document.occurrences context files)) scan after := by
  induction documents generalizing scan with
  | nil =>
      obtain rfl := Except.ok.inj ended
      exact ⟨by simp, by simp, .refl scan⟩
  | cons document rest ih =>
      simp only [scanDocuments, List.foldlM_cons] at ended
      cases first : scanDocument context files document scan with
      | error e => simp [first, bind, Except.bind] at ended
      | ok between =>
          obtain ⟨readable, kept, added⟩ := scanDocument_ok first
          simp only [first, bind, Except.bind] at ended
          obtain ⟨restReadable, restKept, restAdded⟩ := ih ended
          refine ⟨List.forall_mem_cons.mpr ⟨readable, restReadable⟩, ?_, added.trans restAdded⟩
          rw [List.flatMap_cons]
          exact List.forall_mem_append.mpr ⟨kept, restKept⟩

end Scan

end LinkGate
