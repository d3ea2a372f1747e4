import LinkGate.Proofs.JsonLayout
import LinkGate.Report.Basic

/-!
# Reading reports back

The text of a report is a JSON text of one value and a line end. No object in the value names two of its
fields alike, though the fields of a status and of a flaw stand among those of what they belong to, and
the report is read back from the value by the names of the fields.
-/

namespace LinkGate

/-! ## Fields by their names -/

namespace Json

/-- A value in which no object has two fields of the same name. -/
inductive DistinctKeys : Json → Prop where
  | null : DistinctKeys null
  | bool (value : Bool) : DistinctKeys (bool value)
  | number (value : Nat) : DistinctKeys (number value)
  | string (value : String) : DistinctKeys (string value)
  | array {items : List Json} (each : ∀ item ∈ items, DistinctKeys item) : DistinctKeys (array items)
  | object {fields : List (String × Json)} (distinct : (fields.map Prod.fst).Nodup)
      (each : ∀ field ∈ fields, DistinctKeys field.2) : DistinctKeys (object fields)

theorem DistinctKeys.map {α : Type} {write : α → Json} (each : ∀ x, (write x).DistinctKeys)
    (xs : List α) : (Json.array (xs.map write)).DistinctKeys := by
  refine .array fun item mem => ?_
  obtain ⟨x, -, rfl⟩ := List.mem_map.mp mem
  exact each x

def field? (value : Json) (key : String) : Option Json :=
  match value with
  | object fields => fields.lookup key
  | _ => none

def string? (value : Json) (key : String) : Option String :=
  match value.field? key with
  | some (string s) => some s
  | _ => none

def number? (value : Json) (key : String) : Option Nat :=
  match value.field? key with
  | some (number n) => some n
  | _ => none

def list? {α : Type} (value : Json) (key : String) (read : Json → Option α) : Option (List α) :=
  match value.field? key with
  | some (array items) => items.mapM read
  | _ => none

def text? : Json → Option String
  | string s => some s
  | _ => none

theorem mapM_comp_eq_some {α : Type} (write : α → Json) {read : Json → Option α}
    (inverse : ∀ x, read (write x) = some x) (xs : List α) : xs.mapM (read ∘ write) = some xs := by
  rw [show read ∘ write = fun x => pure (id x) from funext inverse, List.mapM_pure, List.map_id]
  rfl

end Json

/-! ## Parts of a report -/

def TransportKind.ofKey? : String → Option TransportKind
  | "timeout" => some timeout
  | "dns" => some dns
  | "tls" => some tls
  | "connect" => some connect
  | "too_many_redirects" => some tooManyRedirects
  | "other" => some other
  | _ => none

theorem TransportKind.ofKey?_key (kind : TransportKind) : ofKey? kind.key = some kind := by
  cases kind <;> rfl

def Json.code? (value : Json) (key : String) : Option UInt16 :=
  (value.number? key).bind fun n => if n < UInt16.size then some (UInt16.ofNat n) else none

def TransportError.ofJson? (kindKey : String) (value : Json) : Option TransportError := do
  let kind ← TransportKind.ofKey? (← value.string? kindKey)
  let message ← value.string? "message"
  return ⟨kind, message⟩

def Status.ofJson? (value : Json) : Option Status := do
  match ← value.string? "result" with
  | "status" => return .code (← value.code? "code")
  | "transport" => return .failed (← TransportError.ofJson? "kind" value)
  | _ => none

def Outcome.ofJson? (value : Json) : Option Outcome := do
  let url ← value.string? "url"
  let status ← Status.ofJson? value
  let attempts ← value.number? "attempts"
  return ⟨url, status, attempts⟩

def Origin.ofJson? (value : Json) : Option Origin := do
  let document ← value.string? "document"
  let target ← value.string? "target"
  let line ← value.number? "line"
  return ⟨⟨document⟩, target, line⟩

def Flaw.ofJson? (value : Json) : Option Flaw := do
  match ← value.string? "kind" with
  | "missing_local_file" => return .missingLocalFile ⟨← value.string? "path"⟩
  | "not_a_url" => return .notAUrl
  | "bad_status" => return .badStatus (← value.string? "url") (← value.code? "code")
  | "transport" =>
    return .transport (← value.string? "url") (← TransportError.ofJson? "transport" value)
  | _ => none

def Failure.ofJson? (value : Json) : Option Failure := do
  let origin ← Origin.ofJson? value
  let flaw ← Flaw.ofJson? value
  return ⟨origin, flaw⟩

def Scope.Mode.ofJson? (value : Json) : Option Scope.Mode := do
  match ← value.string? "mode" with
  | "full" => return .full
  | "changed" => return .changed (← value.string? "target_ref")
  | _ => none

def Path.ofJson? (value : Json) : Option Path :=
  value.text?.map Path.mk

def Report.ofJson? (value : Json) : Option Report := do
  let branch ← value.string? "branch"
  let mode ← Scope.Mode.ofJson? (← value.field? "scope")
  let documentsChecked ← value.list? "documents_checked" Path.ofJson?
  let documentsSkipped ← value.list? "documents_skipped" Path.ofJson?
  let localLinksChecked ← value.number? "local_links_checked"
  let outcomes ← value.list? "outcomes" Outcome.ofJson?
  let failures ← value.list? "failures" Failure.ofJson?
  return { branch, mode, documentsChecked, documentsSkipped, localLinksChecked, outcomes, failures }

/-! ## What is written is read -/

@[simp] theorem Json.field?_cons (key name : String) (value : Json) (fields : List (String × Json)) :
    (object ((name, value) :: fields)).field? key =
      if key = name then some value else (object fields).field? key := by
  by_cases same : key = name
  · rw [field?, List.lookup_cons, beq_iff_eq.mpr same, if_pos same]
  · rw [field?, List.lookup_cons, beq_eq_false_iff_ne.mpr same, if_neg same, field?]

theorem Outcome.ofJson?_json (o : Outcome) : ofJson? o.json = some o := by
  obtain ⟨url, status, attempts⟩ := o
  cases status with
  | code value =>
      simp [ofJson?, json, Status.ofJson?, Status.fields, Json.string?, Json.number?, Json.code?,
        value.toNat_lt_size]
  | failed error =>
      simp [ofJson?, json, Status.ofJson?, Status.fields, Json.string?, Json.number?,
        TransportError.fields, TransportError.ofJson?, TransportKind.ofKey?_key]

theorem Origin.ofJson?_fields (o : Origin) (fields : List (String × Json)) :
    ofJson? (.object (o.fields ++ fields)) = some o := by
  simp [ofJson?, Origin.fields, Json.string?, Json.number?]

theorem Flaw.ofJson?_fields (o : Origin) (flaw : Flaw) :
    ofJson? (.object (o.fields ++ flaw.fields)) = some flaw := by
  cases flaw with
  | missingLocalFile path => simp [ofJson?, Origin.fields, Flaw.fields, Json.string?]
  | notAUrl => simp [ofJson?, Origin.fields, Flaw.fields, Json.string?]
  | badStatus url code =>
      simp [ofJson?, Origin.fields, Flaw.fields, Json.string?, Json.number?, Json.code?, code.toNat_lt_size]
  | transport url error =>
      simp [ofJson?, Origin.fields, Flaw.fields, Json.string?, TransportError.ofJson?,
        TransportKind.ofKey?_key]

theorem Failure.ofJson?_json (f : Failure) : ofJson? f.json = some f := by
  rw [ofJson?, json, Origin.ofJson?_fields, Flaw.ofJson?_fields]
  rfl

theorem Scope.Mode.ofJson?_json (mode : Scope.Mode) : ofJson? mode.json = some mode := by
  cases mode <;> simp [ofJson?, json, Json.string?]

theorem Path.mapM_ofJson? (paths : List Path) :
    paths.mapM (ofJson? ∘ Json.string ∘ text) = some paths :=
  Json.mapM_comp_eq_some (Json.string ∘ text) (fun _ => rfl) paths

/-- A report is read back from JSON. -/
theorem Report.ofJson?_json (r : Report) : ofJson? r.json = some r := by
  simp [ofJson?, json, Json.string?, Json.number?, Json.list?, Json.strings,
    Scope.Mode.ofJson?_json, Path.mapM_ofJson?, Json.mapM_comp_eq_some Outcome.json Outcome.ofJson?_json,
    Json.mapM_comp_eq_some Failure.json Failure.ofJson?_json]

/-! ## No name stands twice -/

section DistinctKeys

open Json

theorem Outcome.distinctKeys_json (o : Outcome) : o.json.DistinctKeys := by
  obtain ⟨url, status, attempts⟩ := o
  cases status with
  | code value =>
      refine .object (by simp [Status.fields]) ?_
      simp [Status.fields, DistinctKeys.string, DistinctKeys.number]
  | failed error =>
      refine .object (by simp [Status.fields, TransportError.fields]) ?_
      simp [Status.fields, TransportError.fields, DistinctKeys.string, DistinctKeys.number]

theorem Failure.distinctKeys_json (f : Failure) : f.json.DistinctKeys := by
  obtain ⟨origin, flaw⟩ := f
  refine .object ?_ ?_
  · cases flaw <;> simp [Origin.fields, Flaw.fields]
  · cases flaw <;> simp [Origin.fields, Flaw.fields, DistinctKeys.string, DistinctKeys.number]

theorem Scope.Mode.distinctKeys_json (mode : Scope.Mode) : mode.json.DistinctKeys := by
  cases mode with
  | full => exact .object (by simp) (by simp [DistinctKeys.string])
  | changed targetRef => exact .object (by simp) (by simp [DistinctKeys.string])

theorem Json.distinctKeys_strings (values : List String) : (strings values).DistinctKeys :=
  .map DistinctKeys.string values

/-- No object in the JSON of a report names two of its fields alike. -/
theorem Report.distinctKeys_json (r : Report) : r.json.DistinctKeys := by
  refine .object (by simp) ?_
  simp [DistinctKeys.string, DistinctKeys.number, Scope.Mode.distinctKeys_json,
    distinctKeys_strings, DistinctKeys.map Outcome.distinctKeys_json,
    DistinctKeys.map Failure.distinctKeys_json]

end DistinctKeys

/-! ## The text of a report -/

theorem Json.pretty_object (depth : Nat) (fields : List (String × Json)) :
    ∃ middle, pretty depth (object fields) = '\x7b' :: middle ++ ['\x7d'] := by
  cases fields with
  | nil => exact ⟨[], rfl⟩
  | cons field rest =>
      refine ⟨prettyFields (depth + 1) (field :: rest) ++ newline depth, ?_⟩
      simp only [pretty, List.cons_append]

theorem Report.toList_jsonText (r : Report) : r.jsonText.toList = r.json.prettyText.toList ++ ['\n'] := by
  rw [jsonText, String.toList_append]
  rfl

/-- Reports with the same text are the same. -/
theorem Report.jsonText_injective {r other : Report} (same : other.jsonText = r.jsonText) :
    other = r := by
  have texts : other.json.prettyText.toList = r.json.prettyText.toList := by
    have whole := congrArg String.toList same
    rwa [toList_jsonText, toList_jsonText, List.append_cancel_right_eq] at whole
  have spelled := Json.spells_prettyText other.json
  rw [texts] at spelled
  have values : other.json = r.json := spelled.unique (Json.spells_prettyText r.json)
  have read := ofJson?_json other
  rwa [values, ofJson?_json, Option.some.injEq, eq_comm] at read

/-- A text that is one JSON object and a line end, and gives a report when it is read by the names of the
fields. -/
def Report.IsReadFrom (r : Report) (text : String) : Prop :=
  ∃ middle value, text.toList = '\x7b' :: middle ++ ['\x7d'] ++ ['\n'] ∧
    (∀ other, Json.Spells other ('\x7b' :: middle ++ ['\x7d']) ↔ other = value) ∧
    value.DistinctKeys ∧ ofJson? value = some r

theorem Report.isReadFrom_jsonText (r : Report) : r.IsReadFrom r.jsonText := by
  obtain ⟨middle, laidOut⟩ := Json.pretty_object 0 _
  have text : r.json.prettyText.toList = '\x7b' :: middle ++ ['\x7d'] := by
    rw [Json.prettyText, String.toList_ofList]
    exact laidOut
  have spells := Json.spells_prettyText r.json
  rw [text] at spells
  refine ⟨middle, r.json, ?_, fun other => ⟨fun spelled => spelled.unique spells, ?_⟩,
    r.distinctKeys_json, r.ofJson?_json⟩
  · rw [toList_jsonText, text]
  · rintro rfl
    exact spells

/-- The text of a report is a JSON text of one value and a line end, with no blanks around the value. No
object in the value names two of its fields alike, and the report is read back from the value, so that two
reports never have the same text. -/
theorem Report.jsonText_reads_back (r : Report) :
    ∃ middle value, r.jsonText.toList = '\x7b' :: middle ++ ['\x7d'] ++ ['\n'] ∧
      (∀ other, Json.Spells other ('\x7b' :: middle ++ ['\x7d']) ↔ other = value) ∧
      value.DistinctKeys ∧ ofJson? value = some r ∧
      ∀ other : Report, other.jsonText = r.jsonText ↔ other = r := by
  obtain ⟨middle, value, text, unique, distinct, read⟩ := r.isReadFrom_jsonText
  exact ⟨middle, value, text, unique, distinct, read, fun other => ⟨jsonText_injective, congrArg jsonText⟩⟩

end LinkGate
