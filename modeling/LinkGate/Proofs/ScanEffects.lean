import LinkGate.Proofs.FatalFaults
import Mathlib.Algebra.Ring.Nat
import Mathlib.Data.List.Forall2

/-!
# The effects of a scan

A scan of a document judges its links one after the other, and each link that is judged does one of three
things: it is rejected, a file is looked for, or an address is kept. `Appends` says what a document whose links
have some effects adds to what has been gathered before; which effects they are does not depend on it.
-/

namespace LinkGate

/-- What judging a link does. -/
inductive Effect where
  /-- The link is rejected. -/
  | rejects (origin : Origin)
  /-- A file is looked for, and is there or not. -/
  | looksFor (path : Path) (origin : Origin) (present : Bool)
  /-- An address is kept with the place at which it is written. -/
  | keeps (url : String) (origin : Origin)
deriving DecidableEq, Repr

namespace Effect

def failure? : Effect → Option Failure
  | rejects origin => some ⟨origin, .notAUrl⟩
  | looksFor path origin false => some ⟨origin, .missingLocalFile path⟩
  | looksFor _ _ true => none
  | keeps _ _ => none

def link? : Effect → Option (String × Origin)
  | keeps url origin => some (url, origin)
  | _ => none

def isRejection : Effect → Bool
  | rejects _ => true
  | _ => false

def isLookup : Effect → Bool
  | looksFor .. => true
  | _ => false

/-- Every effect is of one of the three kinds, and of no other. -/
theorem length_eq_sum (effects : List Effect) :
    effects.length =
      effects.countP isRejection + effects.countP isLookup + (effects.filterMap link?).length := by
  induction effects with
  | nil => rfl
  | cons effect effects ih =>
      cases effect <;>
        simp only [List.length_cons, List.countP_cons, List.filterMap_cons, isRejection, isLookup, link?,
          ih] <;>
        simp <;> omega

theorem countP_notAUrl (effects : List Effect) :
    (effects.filterMap failure?).countP (·.flaw = .notAUrl) = effects.countP isRejection := by
  induction effects with
  | nil => rfl
  | cons effect effects ih =>
      rw [List.countP_cons, ← ih]
      cases effect with
      | rejects => simp [failure?, isRejection]
      | looksFor path origin present =>
          cases present <;> simp [failure?, isRejection, List.filterMap_cons]
      | keeps => simp [failure?, isRejection, List.filterMap_cons]

end Effect

/-! ## One link -/

namespace Occurrence

/-- The effect of a link. A heading without an address has none. -/
inductive HasEffect (context : Context) (files : Files) (o : Occurrence) : Effect → Prop where
  | rejected (meaning : o.meaning = .error .notAUrl) : HasEffect context files o (.rejects o.origin)
  | localFile {path : Path} (meaning : o.meaning = .ok (.localFile path)) :
      HasEffect context files o
        (.looksFor path o.origin (Verdicts.localExists files context.root path))
  | remote {url : String} (meaning : o.meaning = .ok (.remote url)) :
      HasEffect context files o (.keeps url o.origin)
  | heading {document fragment base : String} (meaning : o.meaning = .ok (.anchor document fragment))
      (known : context.baseUrl = some base) :
      HasEffect context files o (.keeps (base ++ document ++ "#" ++ fragment) o.origin)

variable {context : Context} {files : Files} {o : Occurrence} {effect other : Effect}

/-- A link has one effect at most. -/
theorem HasEffect.unique (one : o.HasEffect context files effect)
    (another : o.HasEffect context files other) : effect = other := by
  cases one <;> cases another <;> simp_all

theorem exists_effect_of_not_isLost (files : Files) (kept : o.isLost context = false) :
    ∃ effect, o.HasEffect context files effect := by
  cases meaning : o.meaning with
  | error violation =>
      cases violation
      exact ⟨_, .rejected meaning⟩
  | ok target =>
      cases target with
      | localFile path => exact ⟨_, .localFile meaning⟩
      | remote url => exact ⟨_, .remote meaning⟩
      | anchor document fragment =>
          cases known : context.baseUrl with
          | none => simp [isLost, meaning, known] at kept
          | some base => exact ⟨_, .heading meaning known⟩

/-- The failure of a link before any request is that of its effect. -/
theorem HasEffect.failure?_eq (has : o.HasEffect context files effect) :
    o.failure? context files = effect.failure? := by
  cases has with
  | rejected meaning => simp [failure?, flaw?, Effect.failure?, meaning]
  | @localFile path meaning =>
      have found : Verdicts.localExists files context.root path = true ↔
          path.isAbsolute = false ∧ files.has (context.root.join path) = true := by
        rw [Verdicts.localExists, Bool.and_eq_true, Bool.not_eq_true']
      cases present : Verdicts.localExists files context.root path <;>
        simp [failure?, flaw?, Effect.failure?, meaning, ← found, present]
  | remote meaning => simp [failure?, flaw?, Effect.failure?, meaning]
  | heading meaning known => simp [failure?, flaw?, Effect.failure?, meaning]

theorem HasEffect.isLocal_eq (has : o.HasEffect context files effect) :
    o.isLocal = effect.isLookup := by
  cases has <;> simp [isLocal, Effect.isLookup, *]

/-- The address of a link is the one that is kept. -/
theorem HasEffect.written?_eq (has : o.HasEffect context files effect) :
    o.written? context = effect.link? := by
  cases has <;> simp [written?, address?, Effect.link?, *]

/-- What is read off links is what is read off their effects, if it is so for each of them. -/
theorem map_eq_of_hasEffect {α : Type} {f : Occurrence → α} {g : Effect → α}
    (same : ∀ {o effect}, o.HasEffect context files effect → f o = g effect)
    {seen : List Occurrence} {effects : List Effect}
    (have_effects : List.Forall₂ (HasEffect context files) seen effects) :
    seen.map f = effects.map g := by
  rw [← List.forall₂_eq_eq_eq, List.forall₂_map_left_iff, List.forall₂_map_right_iff]
  exact have_effects.imp fun _ _ => same

end Occurrence

/-! ## One document -/

/-- How many links have been judged: those that were rejected, those whose files were looked for, and the
places at which addresses are written. -/
def Scan.judged (scan : Scan) : Nat :=
  scan.verdicts.failures.countP (·.flaw = .notAUrl) + scan.verdicts.localLinksChecked +
    scan.links.places

/-- What a document whose links have some effects adds to a scan. -/
structure Appends (document : Document) (effects : List Effect) (before after : Scan) : Prop where
  documents :
    after.verdicts.documentsChecked = before.verdicts.documentsChecked ++ [document.path]
  failures :
    after.verdicts.failures = before.verdicts.failures ++ effects.filterMap Effect.failure?
  localLinks :
    after.verdicts.localLinksChecked =
      before.verdicts.localLinksChecked + effects.countP Effect.isLookup
  origins : ∀ url,
    after.links.origins url =
      before.links.origins url ++
        ((effects.filterMap Effect.link?).filter (·.1 = url)).map Prod.snd
  urls : ∀ url,
    url ∈ after.links.urls ↔
      url ∈ before.links.urls ∨ ∃ link ∈ effects.filterMap Effect.link?, link.1 = url
  wellFormed : after.links.WellFormed
  judged : after.judged = before.judged + effects.length

variable {context : Context} {files : Files} {document : Document}

/-- What a scan finds in the links of a document is what their effects add. -/
theorem Scanned.appends {seen : List Occurrence} {effects : List Effect} {before after : Scan}
    (wellFormed : before.links.WellFormed)
    (have_effects : List.Forall₂ (Occurrence.HasEffect context files) seen effects)
    (added : Scanned context files [document.path] seen before after) :
    Appends document effects before after := by
  have failures : seen.filterMap (Occurrence.failure? context files) =
      effects.filterMap Effect.failure? := by
    have each := Occurrence.map_eq_of_hasEffect (fun has => has.failure?_eq) have_effects
    simpa using congrArg (List.filterMap id) each
  have links : seen.filterMap (Occurrence.written? context) = effects.filterMap Effect.link? := by
    have each := Occurrence.map_eq_of_hasEffect (fun has => has.written?_eq) have_effects
    simpa using congrArg (List.filterMap id) each
  have localLinks : seen.countP Occurrence.isLocal = effects.countP Effect.isLookup := by
    have each := Occurrence.map_eq_of_hasEffect (fun has => has.isLocal_eq) have_effects
    simpa using congrArg (List.countP id) each
  have added_failures := added.failures
  have added_local := added.localLinks
  have added_links := added.links
  rw [failures] at added_failures
  rw [localLinks] at added_local
  rw [links] at added_links
  refine ⟨added.documents, added_failures, added_local, ?_, ?_, ?_, ?_⟩
  · intro url
    rw [added_links, LinkSet.origins_insertAll wellFormed]
  · intro url
    rw [added_links, LinkSet.mem_urls_insertAll]
  · rw [added_links]
    exact wellFormed.insertAll
  · rw [Scan.judged, added_failures, added_local, added_links, List.countP_append,
      Effect.countP_notAUrl, LinkSet.places_insertAll, Effect.length_eq_sum effects, Scan.judged]
    omega

theorem Occurrence.exists_effects (files : Files) {seen : List Occurrence}
    (kept : ∀ o ∈ seen, o.isLost context = false) :
    ∃ effects, List.Forall₂ (HasEffect context files) seen effects := by
  induction seen with
  | nil => exact ⟨[], .nil⟩
  | cons o rest ih =>
      obtain ⟨here, there⟩ := List.forall_mem_cons.mp kept
      obtain ⟨effect, has⟩ := exists_effect_of_not_isLost files here
      obtain ⟨effects, have_effects⟩ := ih there
      exact ⟨effect :: effects, .cons has have_effects⟩

/-- A scan of a document judges its links up to the first one that leads to a heading without an address, which
ends it with an error. Each link that is judged has one effect, and what was gathered before is kept and followed
by the document and by what these effects bring, whatever was gathered before. If no link ends the scan, the links
are as many as the rejections, the files that are looked for and the places that are kept. -/
theorem scanText_appends (context : Context) (files : Files) (document : Document) (text : String) :
    let links := Markdown.extractLinks text
    ∃ judged left effects, links = judged ++ left ∧
      List.Forall₂ (Occurrence.HasEffect context files) (judged.map (⟨document, ·⟩)) effects ∧
      (∀ link ∈ judged, ∃! effect, Occurrence.HasEffect context files ⟨document, link⟩ effect) ∧
      (∀ link ∈ left.head?, context.baseUrl = none ∧ ∃ heading fragment,
        Target.classify link.target document.path document.allowLocal =
          .ok (.anchor heading fragment)) ∧
      ∀ before : Scan, before.links.WellFormed →
        let result := (Scan.scanText context files document text before).1
        let after := (Scan.scanText context files document text before).2
        Appends document effects before after ∧
        (∀ link ∈ left.head?, result = .error (.anchorWithoutBase document.path link.target)) ∧
        (result = .ok () ↔ left = []) ∧
        (result = .ok () →
          links.length = effects.countP Effect.isRejection + effects.countP Effect.isLookup +
            (effects.filterMap Effect.link?).length) := by
  intro links
  -- The scan stops in front of the first lost link, whatever was gathered before.
  let lost (link : Markdown.RawLink) : Bool := (⟨document, link⟩ : Occurrence).isLost context
  let judged := links.takeWhile fun link => !lost link
  let left := links.dropWhile fun link => !lost link
  have divided : links = judged ++ left := List.takeWhile_append_dropWhile.symm
  have kept : ∀ link ∈ judged, lost link = false := fun link member => by
    simpa using List.mem_takeWhile_imp member
  have first : (Markdown.extractLinks text).find? lost = left.head? := links.find?_eq_head?_dropWhile_not lost
  have keptOccurrences : ∀ o ∈ judged.map (⟨document, ·⟩), Occurrence.isLost context o = false :=
    List.forall_mem_map.mpr kept
  obtain ⟨effects, have_effects⟩ := Occurrence.exists_effects files keptOccurrences
  refine ⟨judged, left, effects, divided, have_effects, ?_, ?_, ?_⟩
  · intro link member
    obtain ⟨effect, has⟩ := Occurrence.exists_effect_of_not_isLost files (kept link member)
    exact ⟨effect, has, fun _ other => other.unique has⟩
  · intro link member
    have found : links.find? lost = some link := first.trans member
    have isLost : lost link = true := List.find?_some found
    exact Occurrence.isLost_iff.mp isLost
  · intro before wellFormed result after
    obtain ⟨ended, added⟩ := Scan.scanText_spec context files document text before
    rw [first] at ended
    change result = _ at ended
    have whole : result = .ok () ↔ left = [] := by
      cases behind : left with
      | nil => simp [ended, behind]
      | cons link rest => simp [ended, behind]
    refine ⟨added.appends wellFormed have_effects, ?_, whole, ?_⟩
    · intro link member
      rw [ended, member]
    · intro finished
      rw [divided, whole.mp finished, List.append_nil, ← Effect.length_eq_sum]
      simpa using have_effects.length_eq

/-- A missing file and an address that was kept before, in front of a heading without an address. -/
theorem scanText_appends_of_lost_heading :
    let context : Context := ⟨⟨"."⟩, "main", none, Scope.whole []⟩
    let files : Files := { read := fun _ => .error .notFound, has := fun _ => false }
    let document : Document := ⟨⟨"b.md"⟩, true⟩
    let text := "[v](c.md) [x](http://[::1]/) [y](#use) [z](d.md)"
    let url := "http://[::1]/"
    let rejected : Failure := ⟨⟨⟨"a.md"⟩, "e.md", 1⟩, .notAUrl⟩
    let missing : Failure := ⟨⟨⟨"b.md"⟩, "c.md", 1⟩, .missingLocalFile ⟨"c.md"⟩⟩
    let before : Scan := ⟨⟨[⟨"a.md"⟩], 2, [rejected]⟩, ⟨[(url, [⟨⟨"a.md"⟩, url, 2⟩])]⟩⟩
    let after : Scan :=
      ⟨⟨[⟨"a.md"⟩, ⟨"b.md"⟩], 3, [rejected, missing]⟩,
        ⟨[(url, [⟨⟨"a.md"⟩, url, 2⟩, ⟨⟨"b.md"⟩, url, 1⟩])]⟩⟩
    before.links.WellFormed ∧
      Scan.scanText context files document text before =
        (.error (.anchorWithoutBase ⟨"b.md"⟩ "#use"), after) ∧
      ∃ judged left effects, Markdown.extractLinks text = judged ++ left ∧
        List.Forall₂ (Occurrence.HasEffect context files) (judged.map (⟨document, ·⟩)) effects ∧
        Appends document effects before after ∧ left ≠ [] := by
  intro context files document text url rejected missing before after
  have wellFormed : before.links.WellFormed :=
    ⟨List.pairwise_singleton _ _, List.forall_mem_singleton.mpr (List.cons_ne_nil _ _)⟩
  have extracted : Markdown.extractLinks text =
      [⟨"c.md", 1, 0, 9⟩, ⟨url, 1, 10, 28⟩, ⟨"#use", 1, 29, 38⟩, ⟨"d.md", 1, 39, 48⟩] := by
    -- The links are found from the last to the first, and sorting them is no computation for the kernel.
    let found : List Markdown.Event :=
      [.link .inline false "d.md" 39 48, .link .inline false "#use" 29 38,
        .link .inline false url 10 28, .link .inline false "c.md" 0 9]
    have sorted : List.mergeSort found (fun a b => a.start ≤ b.start) = found.reverse := by
      simp [found, List.mergeSort, Markdown.Event.start]
    have events : Markdown.events text = found.reverse := by
      rw [← sorted]
      exact congrArg (List.mergeSort · _) (by decide +kernel)
    rw [Markdown.extractLinks, events]
    decide +kernel
  have scanned : Scan.scanText context files document text before =
      (.error (.anchorWithoutBase ⟨"b.md"⟩ "#use"), after) := by
    rw [Scan.scanText, extracted]
    decide +kernel
  obtain ⟨judged, left, effects, divided, have_effects, -, -, appended⟩ :=
    scanText_appends context files document text
  obtain ⟨appends, -, whole, -⟩ := appended before wellFormed
  rw [scanned] at appends whole
  have endsEarly : left ≠ [] := by
    intro nothing
    cases whole.mpr nothing
  exact ⟨wellFormed, scanned, judged, left, effects, divided, have_effects, appends, endsEarly⟩

end LinkGate
