import LinkGate.Context
import LinkGate.Proofs.ByteOrder
import LinkGate.Proofs.JsonLayout
import LinkGate.Proofs.TokenReading

/-!
# Lists of documents that are read back

A list of documents is written as a JSON array with an object for each entry. However it is laid out and its
characters are escaped, it is read as the list it was written for. A file that ends before the array does, or
goes on behind it, is refused: a list is never taken for a shorter one.
-/

namespace LinkGate

open Json

/-- The fields of the objects that an entry may be written as: in either order, and without the second one
where relative links are allowed. -/
inductive Document.WrittenAs : Document → List (String × Json) → Prop where
  | pathFirst (path : Path) (allowLocal : Bool) :
      WrittenAs ⟨path, allowLocal⟩ [("path", .string path.text), ("allow_local", .bool allowLocal)]
  | pathLast (path : Path) (allowLocal : Bool) :
      WrittenAs ⟨path, allowLocal⟩ [("allow_local", .bool allowLocal), ("path", .string path.text)]
  | pathAlone (path : Path) : WrittenAs ⟨path, true⟩ [("path", .string path.text)]

namespace Manifest

/-- Whether a text is a JSON array with an object for each of some documents, in their order. -/
def Lists (documents : List Document) (text : List Char) : Prop :=
  ∃ rows, List.Forall₂ Document.WrittenAs documents rows ∧ Spells (.array (rows.map .object)) text

/-- What stands before the bracket that ends a list, behind which are only blanks. -/
def beforeEnd (text : List Char) : List Char :=
  (text.rdropWhile isBlank).dropLast

variable {ts : List Token} {text : List Char}

/-! ## Single values -/

theorem takes_path {value : String} (lexes : Lexes (.string value :: ts) text) :
    Takes path (fun s => (⟨value⟩, s)) text ts := by
  refine .after_quote lexes (fun s => by simp only [path, skipBlanks_skipBlanks]) (fun _ => rfl)
    ⟨_, rfl⟩ fun content written => ?_
  have reads := (reads_string written).map fun read => ((⟨String.ofList read.1⟩ : Path), read.2)
  simp only [String.ofList_toList] at reads
  exact reads

theorem takes_allowLocal {value : Bool} (lexes : Lexes (.bool value :: ts) text) :
    Takes allowLocal (fun s => (value, s)) text ts := by
  refine .after_blanks lexes (fun s => by simp only [allowLocal, skipBlanks_skipBlanks]) ⟨_, rfl⟩
    fun piece rest spelled lexes => ⟨piece, rest, rfl, lexes, ?_⟩
  cases spelled with
  | yes => exact ((reads_word ['r', 'u', 'e']).map (true, ·)).cons (fun _ => rfl) ⟨_, rfl⟩
  | no => exact ((reads_word ['a', 'l', 's', 'e']).map (false, ·)).cons (fun _ => rfl) ⟨_, rfl⟩

theorem takes_colon (lexes : Lexes (.mark .colon :: ts) text) : Takes colon (fun s => s) text ts :=
  .after_mark lexes (fun s => by simp only [colon, skipBlanks_skipBlanks]) (fun _ => rfl) ⟨_, rfl⟩
    fun _ lexes => .done lexes fun _ => rfl

/-! ## Fields -/

def nextName (isFirst : Bool) (s : List Char) : Except Fault (Option (List Char) × List Char) := do
  match ← nextKey isFirst s with
  | (false, rest) => .ok (none, rest)
  | (true, s) => (string s).map fun (key, rest) => (some key, rest)

theorem nextName_ignores (isFirst : Bool) : IgnoresBlanks (nextName isFirst) :=
  fun s => by simp only [nextName, nextKey, skipBlanks_skipBlanks]

/-- What may come behind the comma in front of a field. -/
def keyAfterComma : List Char → Except Fault (Bool × List Char)
  | [] => .error (.atNext .endInValue [])
  | '"' :: rest => .ok (true, rest)
  | '\x7d' :: rest => .error (.atNext .trailingComma ('\x7d' :: rest))
  | rest => .error (.atNext .keyNotString rest)

theorem nextKey_comma (s : List Char) : nextKey false (',' :: s) = keyAfterComma (skipBlanks s) := rfl

theorem nextName_comma_ignores : IgnoresBlanks fun s => nextName false (',' :: s) :=
  fun s => by simp only [nextName, nextKey_comma, skipBlanks_skipBlanks]

theorem takes_name {isFirst : Bool} {name : String}
    (lexes : Lexes (separator isFirst ++ .string name :: ts) text) :
    Takes (nextName isFirst) (fun s => (some name.toList, s)) text ts := by
  have reads (content : List Char) (written : Written name.toList content) :=
    (reads_string written).map fun (key, rest) => (some key, rest)
  cases isFirst with
  | true => exact .after_quote lexes (nextName_ignores true) (fun _ => rfl) ⟨_, rfl⟩ reads
  | false =>
      refine .after_mark lexes (nextName_ignores false) (fun _ => rfl) ⟨_, rfl⟩ fun rest lexes => ?_
      exact .after_quote lexes nextName_comma_ignores (fun _ => rfl) ⟨_, rfl⟩ reads

theorem takes_nameEnd (isFirst : Bool) (lexes : Lexes (.mark .endObject :: ts) text) :
    Takes (nextName isFirst) (fun s => (none, s)) text ts :=
  .after_mark lexes (nextName_ignores isFirst) (fun _ => rfl) ⟨_, rfl⟩
    fun _ lexes => .done lexes fun _ => rfl

/-- A field that has not been read yet is read by its own rule behind the colon. -/
theorem fieldValue_of_missing {fields : Fields} {key : List Char} {field : Field}
    (named : Field.ofKey? key = some field) (missing : fields.has field = false) (s : List Char) :
    fieldValue fields key s = colon s >>= fun s =>
      match field with
      | .path => (path s).map fun read => ({ fields with path := some read.1 }, read.2)
      | .allowLocal => (allowLocal s).map fun read => ({ fields with allowLocal := some read.1 }, read.2) := by
  rw [fieldValue, named]
  simp only [missing]
  cases field <;> rfl

theorem takes_pathField (before : Option Bool) {value : String}
    (lexes : Lexes (.mark .colon :: .string value :: ts) text) :
    Takes (fieldValue ⟨none, before⟩ "path".toList) (fun s => (⟨some ⟨value⟩, before⟩, s))
      text ts := by
  rw [show fieldValue ⟨none, before⟩ "path".toList = _ from funext (fieldValue_of_missing rfl rfl)]
  exact (takes_colon lexes).bind fun rest lexes => (takes_path lexes).map _

theorem takes_allowLocalField (before : Option Path) {value : Bool}
    (lexes : Lexes (.mark .colon :: .bool value :: ts) text) :
    Takes (fieldValue ⟨before, none⟩ "allow_local".toList) (fun s => (⟨before, some value⟩, s))
      text ts := by
  rw [show fieldValue ⟨before, none⟩ "allow_local".toList = _ from
    funext (fieldValue_of_missing rfl rfl)]
  exact (takes_colon lexes).bind fun rest lexes => (takes_allowLocal lexes).map _

/-! ## Entries -/

inductive Fills : Fields → List (String × Json) → Document → Prop where
  | done (path : Path) (allowLocal : Option Bool) :
      Fills ⟨some path, allowLocal⟩ [] ⟨path, allowLocal.getD true⟩
  | path {allowLocal : Option Bool} {row : List (String × Json)} {document : Document} (value : String)
      (others : Fills ⟨some ⟨value⟩, allowLocal⟩ row document) :
      Fills ⟨none, allowLocal⟩ (("path", .string value) :: row) document
  | allowLocal {path : Option Path} {row : List (String × Json)} {document : Document} (value : Bool)
      (others : Fills ⟨path, some value⟩ row document) :
      Fills ⟨path, none⟩ (("allow_local", .bool value) :: row) document

theorem fills_of_writtenAs {document : Document} {row : List (String × Json)}
    (written : document.WrittenAs row) : Fills ⟨none, none⟩ row document := by
  cases written with
  | pathFirst path allowLocal => exact .path path.text (.allowLocal allowLocal (.done path _))
  | pathLast path allowLocal => exact .allowLocal allowLocal (.path path.text (.done path _))
  | pathAlone path => exact .path path.text (.done path _)

def nextField (isFirst : Bool) (fields : Fields) (s : List Char) :
    Except Fault (Option Fields × List Char) := do
  match ← nextName isFirst s with
  | (none, rest) => .ok (none, rest)
  | (some key, s) => (fieldValue fields key s).map fun (grown, rest) => (some grown, rest)

theorem objectEntry_succ (rounds : Nat) (isFirst : Bool) (fields : Fields) (s : List Char) :
    objectEntry (rounds + 1) isFirst fields s = nextField isFirst fields s >>= fun
      | (none, rest) =>
        match fields.path with
        | none => .error (.here (.missingField .path) rest)
        | some path => .ok (⟨path, fields.allowLocal.getD true⟩, rest)
      | (some grown, rest) => objectEntry rounds false grown rest := by
  rw [objectEntry, nextField, nextName]
  cases nextKey isFirst s with
  | error fault => rfl
  | ok next =>
      obtain ⟨goesOn, rest⟩ := next
      cases goesOn with
      | false => rfl
      | true =>
          simp only [bind, Except.bind]
          cases string rest with
          | error fault => rfl
          | ok named =>
              obtain ⟨key, rest⟩ := named
              simp only [Except.map]
              cases fieldValue fields key rest <;> rfl

theorem takes_field {isFirst : Bool} {fields grown : Fields} {name : String} {left : List Token}
    (lexes : Lexes (separator isFirst ++ .string name :: ts) text)
    (takes : ∀ rest, Lexes ts rest →
      Takes (fieldValue fields name.toList) (fun s => (grown, s)) rest left) :
    Takes (nextField isFirst fields) (fun s => (some grown, s)) text left :=
  (takes_name lexes).bind fun rest lexes => (takes rest lexes).map _

theorem takes_objectEnd (isFirst : Bool) (fields : Fields) (lexes : Lexes (.mark .endObject :: ts) text) :
    Takes (nextField isFirst fields) (fun s => (none, s)) text ts :=
  (takes_nameEnd isFirst lexes).bind fun _ lexes => .done lexes fun _ => rfl

theorem takes_objectEntry {fields : Fields} {row : List (String × Json)} {document : Document}
    (fills : Fills fields row document) {isFirst : Bool} {text : List Char}
    (lexes : Lexes (fieldTokens isFirst row ++ ts) text) :
    TakesInRounds (objectEntry · isFirst fields) (fun s => (document, s)) text ts := by
  -- Each round takes one of the fields that are left, and the last one the end of the object.
  induction fills generalizing isFirst text with
  | done path allowLocal =>
      have ending := takes_objectEnd isFirst ⟨some path, allowLocal⟩ lexes
      refine .round (fun s => ⟨_, rfl⟩) (objectEntry_succ · isFirst _) ⟨_, rfl⟩ ending
        fun rest lexes => ?_
      exact .done lexes fun rounds s => rfl
  | @path allowLocal _ _ value _ ih =>
      rw [fieldTokens_cons, List.append_assoc] at lexes
      have field := takes_field lexes fun rest lexes => takes_pathField allowLocal lexes
      refine .round (fun s => ⟨_, rfl⟩) (objectEntry_succ · isFirst _) ⟨_, rfl⟩ field
        fun rest lexes => ?_
      exact ih lexes
  | @allowLocal path _ _ value _ ih =>
      rw [fieldTokens_cons, List.append_assoc] at lexes
      have field := takes_field lexes fun rest lexes => takes_allowLocalField path lexes
      refine .round (fun s => ⟨_, rfl⟩) (objectEntry_succ · isFirst _) ⟨_, rfl⟩ field
        fun rest lexes => ?_
      exact ih lexes

/-! ## Lists -/

def nextDocument (isFirst : Bool) (s : List Char) : Except Fault (Option Document × List Char) := do
  match ← nextItem isFirst s with
  | (false, rest) => .ok (none, rest)
  | (true, s) => (entry s).map fun (document, rest) => (some document, rest)

theorem nextDocument_ignores (isFirst : Bool) : IgnoresBlanks (nextDocument isFirst) :=
  fun s => by simp only [nextDocument, nextItem, skipBlanks_skipBlanks]

def itemAfterComma : List Char → Except Fault (Bool × List Char)
  | [] => .error (.atNext .endInValue [])
  | ']' :: rest => .error (.atNext .trailingComma (']' :: rest))
  | rest => .ok (true, rest)

theorem nextItem_comma (s : List Char) : nextItem false (',' :: s) = itemAfterComma (skipBlanks s) := rfl

theorem nextDocument_comma_ignores : IgnoresBlanks fun s => nextDocument false (',' :: s) :=
  fun s => by simp only [nextDocument, nextItem_comma, skipBlanks_skipBlanks]

theorem takes_document {isFirst : Bool} {document : Document} {row : List (String × Json)}
    (written : document.WrittenAs row)
    (lexes : Lexes (separator isFirst ++ (tokens (.object row) ++ ts)) text) :
    Takes (nextDocument isFirst) (fun s => (some document, s)) text ts := by
  rw [tokens, List.cons_append] at lexes
  have inside (rest : List Char) (lexes : Lexes (fieldTokens true row ++ ts) rest) :=
    (takes_objectEntry (fills_of_writtenAs written) lexes).takes.map
      fun (document, rest) => (some document, rest)
  cases isFirst with
  | true => exact .after_mark lexes (nextDocument_ignores true) (fun _ => rfl) ⟨_, rfl⟩ inside
  | false =>
      refine .after_mark lexes (nextDocument_ignores false) (fun _ => rfl) ⟨_, rfl⟩ fun rest lexes => ?_
      exact .after_mark lexes nextDocument_comma_ignores (fun _ => rfl) ⟨_, rfl⟩ inside

theorem takes_listEnd (isFirst : Bool) (lexes : Lexes (.mark .endArray :: ts) text) :
    Takes (nextDocument isFirst) (fun s => (none, s)) text ts :=
  .after_mark lexes (nextDocument_ignores isFirst) (fun _ => rfl) ⟨_, rfl⟩
    fun _ lexes => .done lexes fun _ => rfl

theorem entries_succ (rounds : Nat) (isFirst : Bool) (s : List Char) :
    entries (rounds + 1) isFirst s = nextDocument isFirst s >>= fun
      | (none, rest) => .ok ([], rest)
      | (some document, rest) =>
        (entries rounds false rest).map fun (documents, rest) => (document :: documents, rest) := by
  rw [entries, nextDocument]
  cases nextItem isFirst s with
  | error fault => rfl
  | ok next =>
      obtain ⟨goesOn, rest⟩ := next
      cases goesOn with
      | false => rfl
      | true =>
          simp only [bind, Except.bind]
          cases entry rest with
          | error fault => rfl
          | ok read =>
              obtain ⟨document, rest⟩ := read
              rfl

theorem takes_entries {documents : List Document} {rows : List (List (String × Json))}
    (written : List.Forall₂ Document.WrittenAs documents rows) {isFirst : Bool} {text : List Char}
    (lexes : Lexes (itemTokens isFirst (rows.map .object) ++ ts) text) :
    TakesInRounds (entries · isFirst) (fun s => (documents, s)) text ts := by
  induction written generalizing isFirst text with
  | nil =>
      have ending := takes_listEnd isFirst lexes
      refine .round (fun s => ⟨_, rfl⟩) (entries_succ · isFirst) ⟨_, rfl⟩ ending
        fun rest lexes => ?_
      exact .done lexes fun rounds s => rfl
  | cons first _ ih =>
      rw [List.map_cons, itemTokens_cons, List.append_assoc, List.append_assoc] at lexes
      have document := takes_document first lexes
      refine .round (fun s => ⟨_, rfl⟩) (entries_succ · isFirst) ⟨_, rfl⟩ document
        fun rest lexes => ?_
      exact (ih lexes).map _

def listUpToEnd (s : List Char) : Except Fault (List Document × List Char) :=
  match skipBlanks s with
  | '[' :: rest => entries (rest.length + 1) true rest
  | s => .error (wrongKind .list s)

theorem list_of_ended {s rest : List Char} {documents : List Document}
    (read : listUpToEnd s = .ok (documents, rest)) :
    list s = match skipBlanks rest with
      | [] => .ok documents
      | rest => .error (.atNext .trailingCharacters rest) := by
  unfold listUpToEnd at read
  split at read
  · next opened =>
      rw [list, opened]
      change (entries _ true _ >>= _) = _
      rw [read]
      rfl
  · contradiction

theorem list_of_refused {s : List Char} {fault : Fault} (refused : listUpToEnd s = .error fault) :
    list s = .error fault := by
  unfold listUpToEnd at refused
  split at refused
  · next opened =>
      rw [list, opened]
      change (entries _ true _ >>= _) = _
      rw [refused]
      rfl
  · next other =>
      unfold list
      split
      · next opened => exact (other _ opened).elim
      · rw [Except.error.inj refused]

theorem takes_list {documents : List Document} {text : List Char} (lists : Lists documents text) :
    Takes listUpToEnd (fun s => (documents, s)) text [] := by
  obtain ⟨rows, written, spells⟩ := lists
  rw [Spells, tokens] at spells
  refine .after_mark spells (fun s => by simp only [listUpToEnd, skipBlanks_skipBlanks]) (fun _ => rfl)
    ⟨_, rfl⟩ fun rest lexes => ?_
  rw [← List.append_nil (itemTokens _ _)] at lexes
  exact (takes_entries written lexes).takes

/-! ## Where a list ends -/

/-- A text whose last token is a mark ends in the mark and blanks. -/
theorem exists_eq_append_of_lexes {mark : Mark} {text : List Char}
    (lexes : Lexes (ts ++ [.mark mark]) text) :
    ∃ body blanks, text = body ++ mark.char :: blanks ∧ ∀ c ∈ blanks, isBlank c = true := by
  induction ts generalizing text with
  | nil =>
      obtain ⟨gap, piece, rest, rfl, -, spelled, behind⟩ := lexes_cons lexes
      cases spelled
      exact ⟨gap, rest, rfl, blank_of_lexes_nil behind⟩
  | cons token ts ih =>
      obtain ⟨gap, piece, rest, rfl, -, -, behind⟩ := lexes_cons lexes
      obtain ⟨body, blanks, rfl, blank⟩ := ih behind
      exact ⟨gap ++ (piece ++ body), blanks, by simp only [List.append_assoc], blank⟩

theorem exists_itemTokens_eq (isFirst : Bool) (items : List Json) :
    ∃ ts, itemTokens isFirst items = ts ++ [.mark .endArray] := by
  induction items generalizing isFirst with
  | nil => exact ⟨[], rfl⟩
  | cons item items ih =>
      obtain ⟨ts, last⟩ := ih false
      exact ⟨separator isFirst ++ (tokens item ++ ts), by
        rw [itemTokens_cons, last, List.append_assoc, List.append_assoc]⟩

theorem rdropWhile_isBlank_append {blanks : List Char} (blank : ∀ c ∈ blanks, isBlank c = true)
    (s : List Char) : (s ++ blanks).rdropWhile isBlank = s.rdropWhile isBlank := by
  rw [List.rdropWhile, List.reverse_append, List.dropWhile_append_of_pos, List.rdropWhile]
  exact fun c mem => blank c (List.mem_reverse.mp mem)

theorem rdropWhile_isBlank_of_lists {documents : List Document} (lists : Lists documents text) :
    text.rdropWhile isBlank = beforeEnd text ++ [']'] := by
  obtain ⟨rows, -, spells⟩ := lists
  obtain ⟨ts, last⟩ := exists_itemTokens_eq true (rows.map .object)
  rw [Spells, tokens, last, ← List.cons_append] at spells
  obtain ⟨body, blanks, rfl, blank⟩ := exists_eq_append_of_lexes spells
  have visible : (body ++ ']' :: blanks).rdropWhile isBlank = body ++ [']'] := by
    rw [List.append_cons, rdropWhile_isBlank_append blank, List.rdropWhile_concat_neg]
    decide
  change (body ++ ']' :: blanks).rdropWhile isBlank = beforeEnd (body ++ ']' :: blanks) ++ [']']
  rw [beforeEnd, visible, List.dropLast_concat]

/-- A list is read whole if only blanks follow it, and refused if anything else does. -/
theorem list_append_of_lists {documents : List Document} (lists : Lists documents text) (more : List Char) :
    list (text ++ more) = match skipBlanks more with
      | [] => .ok documents
      | rest => .error (.atNext .trailingCharacters rest) := by
  obtain ⟨front, blanks, rfl, lexes, reads⟩ := takes_list lists
  rw [List.append_assoc, list_of_ended (reads.whole trivial (blanks ++ more)),
    skipBlanks_append (blank_of_lexes_nil lexes)]

theorem list_refuses_cut {documents : List Document} (lists : Lists documents text) {short : List Char}
    (front : short <+: beforeEnd text) : ∃ fault, list short = .error fault := by
  have visible := rdropWhile_isBlank_of_lists lists
  obtain ⟨whole, blanks, rfl, lexes, reads⟩ := takes_list lists
  rw [rdropWhile_isBlank_append (blank_of_lexes_nil lexes)] at visible
  have ended : beforeEnd (whole ++ blanks) ++ [']'] <+: whole := by
    rw [← visible]
    exact List.rdropWhile_prefix isBlank whole
  -- The bracket is part of what is read, so that a front without it is cut off.
  have cut : CutOff short whole := by
    refine ⟨front.trans ((List.prefix_append _ _).trans ended), fun same => ?_⟩
    have shorter := front.length_le
    have longer := ended.length_le
    rw [List.length_append, List.length_singleton] at longer
    rw [same] at shorter
    omega
  obtain ⟨fault, refused⟩ := reads.cut short cut
  exact ⟨fault, list_of_refused refused⟩

/-! ## Files -/

theorem decode_of_list_ok {documents : List Document} {text : String} (nonempty : documents ≠ [])
    (read : list text.toList = .ok documents) : decode text = .ok documents := by
  obtain ⟨first, others, rfl⟩ := List.exists_cons_of_ne_nil nonempty
  rw [decode, read]

theorem decode_of_list_error {text : String} (refused : ∃ fault, list text.toList = .error fault) :
    ∃ cause, decode text = .error cause := by
  obtain ⟨fault, refused⟩ := refused
  exact ⟨_, by rw [decode, refused]⟩

theorem decode_ne_nil (text : String) : decode text ≠ .ok [] := by
  rw [decode]
  split <;> simp_all

end Manifest

namespace Files

variable {files : Files} {path : Path}

theorem readText_of_read {text : String} (holds : files.read path = .ok text.toUTF8) :
    files.readText path = .ok text := by
  have decoded : String.fromUTF8? text.toUTF8 = some text := dif_pos text.isValidUTF8
  rw [readText, holds]
  simp only [decoded]

theorem bytes_of_readText {bytes : ByteArray} {text : String} (holds : files.read path = .ok bytes)
    (read : files.readText path = .ok text) : Text.bytes text = bytes.data.toList := by
  simp only [readText, holds, String.fromUTF8?] at read
  split at read
  · next decoded =>
      split at decoded
      · rw [← Except.ok.inj read, ← Option.some.inj decoded]
        rfl
      · contradiction
  · contradiction

/-- A file that holds the first bytes of a text is read as its first characters if it can be read. -/
theorem prefix_of_readText {text : List Char} {bytes : ByteArray} {short : String}
    (holds : files.read path = .ok bytes) (front : bytes.data.toList <+: Text.bytes (String.ofList text))
    (read : files.readText path = .ok short) : short.toList <+: text := by
  rw [← bytes_of_readText holds read, Text.bytes_eq_flatMap, Text.bytes_eq_flatMap,
    String.toList_ofList] at front
  exact Text.prefix_of_flatMap_utf8EncodeChar front

end Files

namespace Context

/-- Whether a file is refused as a list of documents, by an error that names it. -/
def RefusesList (files : Files) (path : Path) : Prop :=
  ∃ cause, listedDocuments files path = .error (.invalidManifest path cause)

variable {files : Files} {path : Path}

theorem listedDocuments_of_decode {text : String} {documents : List Document}
    (read : files.readText path = .ok text) (decoded : Manifest.decode text = .ok documents) :
    listedDocuments files path = .ok documents := by
  rw [listedDocuments, Manifest.load, read]
  simp only [decoded]

theorem refusesList_of_list {text : String} (read : files.readText path = .ok text)
    (refused : ∃ fault, Manifest.list text.toList = .error fault) : RefusesList files path := by
  obtain ⟨cause, refused⟩ := Manifest.decode_of_list_error refused
  refine ⟨cause, ?_⟩
  rw [listedDocuments, Manifest.load, read]
  simp only [refused]

theorem refusesList_of_readText {cause : ReadError} (unreadable : files.readText path = .error cause) :
    RefusesList files path :=
  ⟨.unreadable cause, by rw [listedDocuments, Manifest.load, unreadable]⟩

theorem listedDocuments_ne_nil : listedDocuments files path ≠ .ok [] := by
  cases read : files.readText path with
  | error cause =>
      obtain ⟨cause, refused⟩ := refusesList_of_readText read
      rw [refused]
      exact nofun
  | ok text =>
      cases decoded : Manifest.decode text with
      | error cause =>
          rw [listedDocuments, Manifest.load, read]
          simp only [decoded]
          exact nofun
      | ok documents =>
          rw [listedDocuments_of_decode read decoded]
          rintro ⟨⟩
          exact Manifest.decode_ne_nil text decoded

/-- A list that is read has entries, and a list of documents is read as it was written. If its file ends
anywhere before the closing bracket, even within a character, or goes on behind it with anything but blanks,
the file is refused. -/
theorem listedDocuments_reads_back (files : Files) (path : Path) :
    listedDocuments files path ≠ .ok [] ∧
      ∀ (documents : List Document) (text : String), documents ≠ [] →
        Manifest.Lists documents text.toList →
        (∃ blanks, text.toList = Manifest.beforeEnd text.toList ++ ']' :: blanks ∧
          ∀ c ∈ blanks, Manifest.isBlank c = true) ∧
        (files.read path = .ok text.toUTF8 → listedDocuments files path = .ok documents) ∧
        (∀ bytes, files.read path = .ok bytes →
          bytes.data.toList <+: Text.bytes (String.ofList (Manifest.beforeEnd text.toList)) →
          RefusesList files path) ∧
        ∀ c rest, Manifest.isBlank c = false →
          files.read path = .ok (text ++ String.ofList (c :: rest)).toUTF8 → RefusesList files path := by
  refine ⟨listedDocuments_ne_nil, fun documents text nonempty lists => ⟨?_, ?_, ?_, ?_⟩⟩
  · refine ⟨text.toList.rtakeWhile Manifest.isBlank, ?_, fun c => List.mem_rtakeWhile_imp⟩
    rw [List.append_cons, ← Manifest.rdropWhile_isBlank_of_lists lists, List.rdropWhile_append_rtakeWhile]
  · intro holds
    have read := Manifest.list_append_of_lists lists []
    rw [List.append_nil] at read
    exact listedDocuments_of_decode (Files.readText_of_read holds)
      (Manifest.decode_of_list_ok nonempty read)
  · intro bytes holds front
    cases read : files.readText path with
    | error cause => exact refusesList_of_readText read
    | ok short =>
        have short_front := Files.prefix_of_readText holds front read
        exact refusesList_of_list read (Manifest.list_refuses_cut lists short_front)
  · intro c rest visible holds
    have stays : Manifest.skipBlanks (c :: rest) = c :: rest :=
      List.dropWhile_cons_of_neg (by rw [visible]; exact Bool.false_ne_true)
    have read := Manifest.list_append_of_lists lists (c :: rest)
    rw [stays] at read
    refine refusesList_of_list (Files.readText_of_read holds)
      ⟨.atNext .trailingCharacters (c :: rest), ?_⟩
    rw [String.toList_append, String.toList_ofList, read]

/-- The characters of paths may be escaped. A file that ends behind its first entry or within a character is
refused, and so is one with a bracket too many. -/
theorem listedDocuments_reads_back_of_escaped_path :
    let documents : List Document := [⟨⟨"😀.md"⟩, true⟩, ⟨⟨"é.md"⟩, false⟩]
    let text :=
      "[\x7b\"path\":\"\\ud83d\\uDE00.md\"\x7d,\n \x7b\"allow_local\":false, \"path\":\"é.md\"\x7d]\n"
    let holding (bytes : ByteArray) : Files := ⟨fun _ => .ok bytes, fun _ => true⟩
    documents ≠ [] ∧ Manifest.Lists documents text.toList ∧
      listedDocuments (holding text.toUTF8) ⟨"docs.json"⟩ = .ok documents ∧
      RefusesList (holding (text.toUTF8.extract 0 27)) ⟨"docs.json"⟩ ∧
      RefusesList (holding (text.toUTF8.extract 0 61)) ⟨"docs.json"⟩ ∧
      RefusesList (holding (text ++ "]").toUTF8) ⟨"docs.json"⟩ := by
  intro documents text holding
  have plain {c : Char} (printable : 0x20 ≤ c.toNat ∧ c ≠ '"' ∧ c ≠ '\\') : Escaped c [c] :=
    .plain printable.1 printable.2.1 printable.2.2
  have face : Written "😀.md".toList "\\ud83d\\uDE00.md".toList :=
    .cons (.pair (.digits rfl rfl rfl rfl) (.digits rfl rfl rfl rfl) (by decide) (by decide) (by decide))
      (.cons (plain (by decide)) (.cons (plain (by decide)) (.cons (plain (by decide)) .nil)))
  have last := (((Lexes.blank (c := '\n') rfl .nil).mark .endArray).mark .endObject).quote "é.md"
  have second := ((((Lexes.blank (c := ' ') rfl ((last.mark .colon).quote "path")).mark .comma).token .no
    nofun).mark .colon).quote "allow_local"
  have first := ((Lexes.blank (c := '\n') rfl (.blank (c := ' ') rfl (second.mark .beginObject))).mark
    .comma).mark .endObject
  have spelled := (((((first.token (.string face) nofun).mark .colon).quote "path").mark .beginObject).mark
    .beginArray)
  have glued {ts : List Token} {s : List Char} (lexes : Lexes ts s) (same : s = text.toList) :
      Lexes ts text.toList := same ▸ lexes
  have lists : Manifest.Lists documents text.toList :=
    ⟨_, .cons (.pathAlone _) (.cons (.pathLast _ _) .nil), glued spelled (by decide +kernel)⟩
  have nonempty : documents ≠ [] := List.cons_ne_nil _ _
  have reads (bytes : ByteArray) :=
    (listedDocuments_reads_back (holding bytes) ⟨"docs.json"⟩).2 documents text nonempty lists
  obtain ⟨-, whole, -, -⟩ := reads text.toUTF8
  obtain ⟨-, -, shortened, -⟩ := reads (text.toUTF8.extract 0 27)
  obtain ⟨-, -, within, -⟩ := reads (text.toUTF8.extract 0 61)
  obtain ⟨-, -, -, longer⟩ := reads (text ++ "]").toUTF8
  have bracket : "]" = String.ofList [']'] := rfl
  exact ⟨nonempty, lists, whole rfl, shortened _ rfl (by decide +kernel), within _ rfl (by decide +kernel),
    longer ']' [] rfl (by rw [bracket])⟩

end Context

end LinkGate
