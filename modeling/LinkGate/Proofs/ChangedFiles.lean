import LinkGate.Proofs.ByteOrder
import LinkGate.Proofs.DialogueRuns
import LinkGate.Proofs.TrimmedLines

/-!
# The files that a diff names

A diff names each file on a line of its own. A path with a byte that is no printable character of ASCII,
or with a quote or a backslash, stands there between quotes and with escapes. The lines are read as they
are, without the blanks at their ends, so that a path is read back exactly if it needs no quotes and no
space begins or ends it.
-/

namespace LinkGate

/-! ## Bytes below 0x80 -/

namespace Text

def characters (bytes : List UInt8) : List Char :=
  bytes.map fun byte => Char.ofNat byte.toNat

theorem forall_byte {P : UInt8 → Prop} (holds : ∀ n, n < 256 → P (UInt8.ofNat n)) (byte : UInt8) :
    P byte :=
  UInt8.ofNat_toNat (x := byte) ▸ holds byte.toNat byte.toNat_lt

theorem utf8EncodeChar_of_lt (byte : UInt8) :
    byte < 0x80 → String.utf8EncodeChar (Char.ofNat byte.toNat) = [byte] :=
  forall_byte (P := fun byte => byte < 0x80 → String.utf8EncodeChar (Char.ofNat byte.toNat) = [byte])
    (by decide +kernel) byte

theorem bytes_characters {bytes : List UInt8} (ascii : ∀ byte ∈ bytes, byte < 0x80) :
    Text.bytes (String.ofList (characters bytes)) = bytes := by
  rw [bytes_eq_flatMap, String.toList_ofList, characters, List.flatMap_map]
  induction bytes with
  | nil => rfl
  | cons byte rest ih =>
      obtain ⟨here, there⟩ := List.forall_mem_cons.mp ascii
      rw [List.flatMap_cons, utf8EncodeChar_of_lt byte here, ih there, List.singleton_append]

theorem decode_characters {bytes : List UInt8} (ascii : ∀ byte ∈ bytes, byte < 0x80) :
    Utf8.decode bytes = characters bytes := by
  induction bytes with
  | nil => rw [Utf8.decode, characters, List.map_nil]
  | cons byte rest ih =>
      obtain ⟨here, there⟩ := List.forall_mem_cons.mp ascii
      have small : byte.toNat < 0x80 := UInt8.lt_iff_toNat_lt.mp here
      have leads : Utf8.lead? byte.toNat = some ⟨byte.toNat, []⟩ := by
        rw [Utf8.lead?, if_pos small]
      simp only [Utf8.decode, leads, Utf8.complete, Option.map_some, Option.getD_some, ih there]
      rfl

theorem bytes_injective {s t : String} (same : Text.bytes s = Text.bytes t) : s = t := by
  have equal : s.toUTF8 = t.toUTF8 := ByteArray.ext (Array.toList_inj.mp same)
  exact String.toByteArray_inj.mp equal

end Text

namespace Git

open Text

/-! ## How a diff names files -/

structure FilePath where
  bytes : List UInt8
  nonempty : bytes ≠ []

def escapeLetter? (byte : UInt8) : Option Char :=
  match byte.toNat with
  | 0x07 => some 'a'
  | 0x08 => some 'b'
  | 0x09 => some 't'
  | 0x0A => some 'n'
  | 0x0B => some 'v'
  | 0x0C => some 'f'
  | 0x0D => some 'r'
  | 0x22 => some '"'
  | 0x5C => some '\\'
  | _ => none

/-- Whether a path with a byte is written between quotes. -/
def needsQuotes (byte : UInt8) : Bool :=
  byte < 0x20 || byte == 0x22 || byte == 0x5C || 0x7F ≤ byte

def octalDigits (byte : UInt8) : List UInt8 :=
  [byte / 64, byte / 8 % 8, byte % 8].map ('0'.toUInt8 + ·)

/-- How a byte stands between quotes: as it is, or behind a backslash a letter or its digits. -/
def escapedByte (byte : UInt8) : List UInt8 :=
  match escapeLetter? byte with
  | some letter => ['\\'.toUInt8, letter.toUInt8]
  | none => if needsQuotes byte then '\\'.toUInt8 :: octalDigits byte else [byte]

namespace FilePath

def isQuoted (p : FilePath) : Bool :=
  p.bytes.any needsQuotes

/-- The line that names a path. -/
def line (p : FilePath) : List UInt8 :=
  if p.isQuoted then '"'.toUInt8 :: p.bytes.flatMap escapedByte ++ ['"'.toUInt8] else p.bytes

end FilePath

def listing (paths : List FilePath) : List UInt8 :=
  paths.flatMap (·.line ++ ['\n'.toUInt8])

/-! ## One line -/

def isPrintable (byte : UInt8) : Bool :=
  0x20 ≤ byte && byte < 0x7F

theorem isPrintable_of_not_needsQuotes (byte : UInt8) :
    needsQuotes byte = false → isPrintable byte = true :=
  forall_byte (P := fun byte => needsQuotes byte = false → isPrintable byte = true)
    (by decide +kernel) byte

theorem isPrintable_escapedByte (byte : UInt8) : ∀ b ∈ escapedByte byte, isPrintable b = true := by
  -- Tested on the list itself, since a test of the whole statement may go through all bytes `b` again.
  have all : (escapedByte byte).all isPrintable = true :=
    forall_byte (P := fun byte => (escapedByte byte).all isPrintable = true) (by decide +kernel) byte
  exact List.all_eq_true.mp all

theorem isWhitespace_of_isPrintable (byte : UInt8) :
    isPrintable byte = true → isWhitespace (Char.ofNat byte.toNat) = (byte == 0x20) :=
  forall_byte (P := fun byte => isPrintable byte = true →
      isWhitespace (Char.ofNat byte.toNat) = (byte == 0x20))
    (by decide +kernel) byte

theorem lt_of_isPrintable {byte : UInt8} (printable : isPrintable byte = true) : byte < 0x80 := by
  simp only [isPrintable, Bool.and_eq_true, decide_eq_true_eq] at printable
  exact UInt8.lt_trans printable.2 (by decide)

theorem length_flatMap_escapedByte (bytes : List UInt8) :
    bytes.length ≤ (bytes.flatMap escapedByte).length := by
  induction bytes with
  | nil => exact Nat.le_refl 0
  | cons byte rest ih =>
      have one : 1 ≤ (escapedByte byte).length := by
        unfold escapedByte
        split
        · exact Nat.le_add_left 1 1
        · split
          · exact Nat.le_add_left 1 _
          · exact Nat.le_refl 1
      rw [List.flatMap_cons, List.length_append, List.length_cons]
      omega

namespace FilePath

variable {p : FilePath}

theorem isPrintable_line (p : FilePath) : ∀ byte ∈ p.line, isPrintable byte = true := by
  unfold line
  intro byte member
  split at member
  · simp only [List.cons_append, List.mem_cons, List.mem_append, List.not_mem_nil, or_false] at member
    rcases member with rfl | escaped | rfl
    · decide
    · obtain ⟨b, -, inEscape⟩ := List.mem_flatMap.mp escaped
      exact isPrintable_escapedByte b byte inEscape
    · decide
  · next plain =>
      apply isPrintable_of_not_needsQuotes
      rw [← Bool.not_eq_true]
      exact fun needs => plain (List.any_eq_true.mpr ⟨byte, member, needs⟩)

theorem ascii_line (p : FilePath) : ∀ byte ∈ p.line, byte < 0x80 :=
  fun byte member => lt_of_isPrintable (p.isPrintable_line byte member)

/-- What is read of the line of a path. -/
def shown (p : FilePath) : String :=
  trim (String.ofList (characters p.line))

/-- A path that needs no quotes, and that no space begins or ends. -/
structure IsPlain (p : FilePath) : Prop where
  unquoted : p.isQuoted = false
  first : p.bytes.head? ≠ some 0x20
  last : p.bytes.getLast? ≠ some 0x20

theorem line_of_isQuoted_eq_false (unquoted : p.isQuoted = false) : p.line = p.bytes := by
  rw [line, unquoted]
  rfl

/-- Of a path without quotes all is read, unless a space begins or ends it. -/
theorem shown_eq_characters_iff :
    p.shown = String.ofList (characters p.line) ↔
      p.line.head? ≠ some 0x20 ∧ p.line.getLast? ≠ some 0x20 := by
  have noSpace {byte? : Option UInt8} (inLine : ∀ byte ∈ byte?, byte ∈ p.line) :
      (∀ c ∈ byte?.map fun byte => Char.ofNat byte.toNat, isWhitespace c = false) ↔
        byte? ≠ some 0x20 := by
    cases byte? with
    | none => simp
    | some byte =>
        have printable := p.isPrintable_line byte (inLine byte rfl)
        simp [isWhitespace_of_isPrintable byte printable]
  rw [shown, trim_eq_self_iff, characters, List.head?_map, List.getLast?_map,
    noSpace fun _ => List.mem_of_mem_head?, noSpace fun _ => List.mem_of_mem_getLast?]

/-- A path is read back exactly if it is plain. -/
theorem bytes_shown_eq_iff : Text.bytes p.shown = p.bytes ↔ p.IsPlain := by
  have written := bytes_characters p.ascii_line
  cases quoted : p.isQuoted with
  | true =>
      have line_eq : p.line = '"'.toUInt8 :: (p.bytes.flatMap escapedByte ++ ['"'.toUInt8]) := by
        rw [line, quoted]
        rfl
      have read : p.shown = String.ofList (characters p.line) := by
        rw [shown_eq_characters_iff, line_eq, List.head?_cons, ← List.cons_append,
          List.getLast?_concat]
        decide
      -- The quotes alone make the line longer than the path.
      have longer := length_flatMap_escapedByte p.bytes
      constructor
      · intro same
        rw [read, written] at same
        have lengths := congrArg List.length same
        rw [line_eq, List.length_cons, List.length_append, List.length_singleton] at lengths
        omega
      · intro plain
        rw [plain.unquoted] at quoted
        contradiction
  | false =>
      have line_eq := line_of_isQuoted_eq_false quoted
      rw [line_eq] at written
      constructor
      · intro same
        have read : p.shown = String.ofList (characters p.line) := by
          rw [line_eq]
          exact bytes_injective (same.trans written.symm)
        obtain ⟨first, last⟩ := shown_eq_characters_iff.mp read
        rw [line_eq] at first last
        exact ⟨quoted, first, last⟩
      · rintro ⟨-, first, last⟩
        have read : p.shown = String.ofList (characters p.line) :=
          shown_eq_characters_iff.mpr (by rw [line_eq]; exact ⟨first, last⟩)
        rw [read, line_eq, written]

theorem shown_ne_empty (plain : p.IsPlain) : p.shown ≠ "" := by
  intro empty
  have read := bytes_shown_eq_iff.mpr plain
  rw [empty] at read
  exact p.nonempty read.symm

end FilePath

/-! ## Whole listings -/

/-- What is read of a listing: one text for each path, unless nothing is left of its line. -/
theorem trimmedLines_listing (paths : List FilePath) :
    trimmedLines (trim (String.ofList (Utf8.decode (listing paths)))) =
      (paths.map FilePath.shown).filter (· ≠ "") := by
  have ascii : ∀ byte ∈ listing paths, byte < 0x80 := by
    intro byte member
    obtain ⟨p, -, inLine⟩ := List.mem_flatMap.mp member
    rcases List.mem_append.mp inLine with inPath | lineEnd
    · exact p.ascii_line byte inPath
    · rw [List.mem_singleton.mp lineEnd]
      decide
  have single : ∀ line ∈ paths.map fun p => characters p.line, '\n' ∉ line := by
    intro line member lineEnd
    obtain ⟨p, -, rfl⟩ := List.mem_map.mp member
    obtain ⟨byte, inLine, same⟩ := List.mem_map.mp lineEnd
    -- Line ends in names are escaped, and the only whitespace that is not is a space.
    have blank := isWhitespace_of_isPrintable byte (p.isPrintable_line byte inLine)
    rw [same] at blank
    have space : byte = 0x20 := eq_of_beq blank.symm
    rw [space] at same
    exact absurd same (by decide)
  have lines : characters (listing paths) =
      (paths.map fun p => characters p.line).flatMap (· ++ ['\n']) := by
    rw [characters, listing, List.map_flatMap, List.flatMap_map]
    refine List.flatMap_congr fun p _ => ?_
    rw [List.map_append]
    rfl
  rw [trimmedLines_trim, decode_characters ascii, lines, trimmedLines_of_lines single, List.map_map]
  rfl

theorem map_bytes_shown_eq_iff (paths : List FilePath) :
    ((paths.map FilePath.shown).filter (· ≠ "")).map Text.bytes = paths.map FilePath.bytes ↔
      ∀ p ∈ paths, p.IsPlain := by
  constructor
  · intro same
    have lengths := congrArg List.length same
    have all : (paths.map FilePath.shown).length = paths.length := List.length_map FilePath.shown
    rw [List.length_map, List.length_map, ← all, List.length_filter_eq_length_iff] at lengths
    rw [List.filter_eq_self.mpr lengths, List.map_map, List.map_inj_left] at same
    exact fun p member => FilePath.bytes_shown_eq_iff.mp (same p member)
  · intro plain
    have kept : ∀ text ∈ paths.map FilePath.shown, decide (text ≠ "") = true := by
      intro text member
      obtain ⟨p, inPaths, rfl⟩ := List.mem_map.mp member
      exact decide_eq_true (FilePath.shown_ne_empty (plain p inPaths))
    rw [List.filter_eq_self.mpr kept, List.map_map, List.map_inj_left]
    exact fun p member => FilePath.bytes_shown_eq_iff.mpr (plain p member)

/-! ## Changed files -/

/-- Whether a program lists some files when it is asked in which files two commits differ, after it was
asked other questions. -/
def Program.Lists (program : Program) (earlier : List Call) (older newer : String)
    (paths : List FilePath) : Prop :=
  ∃ output errors,
    program (earlier.map Call.arguments) ["diff", "--name-only", older ++ ".." ++ newer] =
        .exited 0 output errors ∧
      output.toList = listing paths

variable {program : Program} {paths : List FilePath} {earlier : List Call} {older newer : String}

/-- The answer to what changed: what is read of each line. -/
theorem behaviour_changedFiles (lists : program.Lists earlier older newer paths) :
    program.behaviour earlier (.changedFiles older newer) =
      .ok (((paths.map FilePath.shown).filter (· ≠ "")).map Path.mk) := by
  obtain ⟨output, errors, ended, written⟩ := lists
  have text : (program (earlier.map Call.arguments) (Call.changedFiles older newer).arguments).text =
      .ok (trim (String.ofList (Utf8.decode (listing paths)))) := by
    rw [Call.arguments, ended, Ending.text, Utf8.text, written]
  rw [Program.behaviour, text, ← trimmedLines_listing]
  rfl

def FilePath.Names (p : FilePath) (document : Path) : Prop :=
  ∃ file : Path, Text.bytes file.text = p.bytes ∧ file.identity = document.identity

/-- A plain path names what is read of its line. -/
theorem FilePath.names_iff {p : FilePath} (plain : p.IsPlain) {document : Path} :
    p.Names document ↔ (Path.mk p.shown).identity = document.identity := by
  have read := bytes_shown_eq_iff.mpr plain
  constructor
  · rintro ⟨file, written, same⟩
    rw [← bytes_injective (written.trans read.symm)]
    exact same
  · intro same
    exact ⟨⟨p.shown⟩, read, same⟩

/-- The files that are read of a listing have the names that are read of its lines. -/
theorem exists_file_iff {wanted : List Path.Component} :
    (∃ file ∈ ((paths.map FilePath.shown).filter (· ≠ "")).map Path.mk, file.identity = wanted) ↔
      ∃ p ∈ paths, p.shown ≠ "" ∧ (Path.mk p.shown).identity = wanted := by
  simp only [List.mem_map, List.mem_filter, decide_eq_true_eq]
  constructor
  · rintro ⟨file, ⟨text, ⟨⟨p, inPaths, rfl⟩, nonempty⟩, rfl⟩, same⟩
    exact ⟨p, inPaths, nonempty, same⟩
  · rintro ⟨p, inPaths, nonempty, same⟩
    exact ⟨⟨p.shown⟩, ⟨p.shown, ⟨⟨p, inPaths, rfl⟩, nonempty⟩, rfl⟩, same⟩

theorem mem_select_iff {config : Config} {environment : Environment} {branch ref : String}
    {documents : List Document} {asked : List Call} {scope : Scope}
    (selected : (Scope.select config environment branch documents).run program.behaviour earlier =
      (.ok scope, asked ++ [.changedFiles Scope.localTargetRef "HEAD"]))
    (changed : scope.mode = .changed ref)
    (lists : program.Lists asked Scope.localTargetRef "HEAD" paths) {document : Document}
    (listed : document ∈ documents) :
    (document ∈ scope.documents ↔
      ∃ p ∈ paths, p.shown ≠ "" ∧ (Path.mk p.shown).identity = document.path.identity) ∧
    (document ∈ scope.skipped ↔ document ∉ scope.documents) := by
  rcases Scope.select_ok selected with ⟨-, rfl⟩ | ⟨-, before, files, calls, answered, rfl⟩
  · contradiction
  · obtain rfl := List.append_cancel_right calls
    rw [behaviour_changedFiles lists, Except.ok.injEq] at answered
    subst answered
    rw [Scope.mem_ofChanges.2, Scope.mem_ofChanges.1, exists_file_iff]
    simp only [listed, true_and, and_self]

/-- What is read of a listing are the paths in it exactly if all of them are plain; of any other path the
quotes and escapes stay, and spaces at its ends are lost. If all paths are plain, a document is checked on
a branch exactly if a path of the listing names it, and else it is left out. -/
theorem changedFiles_listing_iff (program : Program) (paths : List FilePath) :
    (∀ earlier older newer, program.Lists earlier older newer paths → ∃ files,
      program.behaviour earlier (.changedFiles older newer) = .ok files ∧
        files.map Path.text = (paths.map FilePath.shown).filter (· ≠ "") ∧
        (files.map (fun file => Text.bytes file.text) = paths.map FilePath.bytes ↔
          ∀ p ∈ paths, p.IsPlain)) ∧
    ∀ config environment branch ref documents earlier asked scope,
      (Scope.select config environment branch documents).run program.behaviour earlier =
          (.ok scope, asked ++ [.changedFiles Scope.localTargetRef "HEAD"]) →
        scope.mode = .changed ref → program.Lists asked Scope.localTargetRef "HEAD" paths →
          (∀ p ∈ paths, p.IsPlain) → ∀ document ∈ documents,
            (document ∈ scope.documents ↔ ∃ p ∈ paths, p.Names document.path) ∧
              (document ∈ scope.skipped ↔ ¬ ∃ p ∈ paths, p.Names document.path) := by
  constructor
  · intro earlier older newer lists
    refine ⟨_, behaviour_changedFiles lists, ?_, ?_⟩
    · rw [List.map_map]
      exact List.map_id _
    · rw [List.map_map, ← map_bytes_shown_eq_iff]
      rfl
  · intro config environment branch ref documents earlier asked scope selected changed lists plain
      document listed
    obtain ⟨inScope, skipped⟩ := mem_select_iff selected changed lists listed
    have named : document ∈ scope.documents ↔ ∃ p ∈ paths, p.Names document.path := by
      rw [inScope]
      refine exists_congr fun p => and_congr_right fun member => ?_
      rw [FilePath.names_iff (plain p member), and_iff_right (FilePath.shown_ne_empty (plain p member))]
    exact ⟨named, skipped.trans (not_congr named)⟩

/-- A program that lists some files after a branch was fetched, and else is silent. -/
def Program.listingAfterFetch (paths : List FilePath) : Program := fun earlier arguments =>
  match earlier.getLast?, arguments with
  | some ("fetch" :: _), "diff" :: _ => .exited 0 ⟨(listing paths).toArray⟩ .empty
  | _, _ => .exited 0 .empty .empty

def callsBeforeListing : List Call :=
  [.fetch "https://github.com/o/r.git" "+main:_doclinks_target_ref"]

theorem Program.listingAfterFetch_lists (paths : List FilePath) (older newer : String) :
    (listingAfterFetch paths).Lists callsBeforeListing older newer paths :=
  ⟨_, _, rfl, toList_eq_data _⟩

/-- Two plain paths, one of them with a space inside and of a document that is spelt with a dot. -/
theorem changedFiles_listing_of_plain_paths :
    let paths : List FilePath :=
      [⟨Text.bytes "docs/a b.md", by decide⟩, ⟨Text.bytes "README.md", by decide⟩]
    let program := Program.listingAfterFetch paths
    let config := { Config.standard ⟨"."⟩ with targetRepository := some "o/r" }
    let documents : List Document := [⟨⟨"./docs/a b.md"⟩, true⟩, ⟨⟨"c.md"⟩, true⟩]
    let scope : Scope := ⟨.changed "main", [⟨⟨"./docs/a b.md"⟩, true⟩], [⟨⟨"c.md"⟩, true⟩]⟩
    let asked := callsBeforeListing
    program.Lists asked Scope.localTargetRef "HEAD" paths ∧ (∀ p ∈ paths, p.IsPlain) ∧
      (∃ files, program.behaviour asked (.changedFiles Scope.localTargetRef "HEAD") = .ok files ∧
        files.map (fun file => Text.bytes file.text) = paths.map FilePath.bytes) ∧
      (Scope.select config .empty "topic" documents).run program.behaviour [] =
        (.ok scope, asked ++ [.changedFiles Scope.localTargetRef "HEAD"]) ∧
      (∃ p ∈ paths, p.Names ⟨"./docs/a b.md"⟩) ∧ ¬ ∃ p ∈ paths, p.Names ⟨"c.md"⟩ := by
  intro paths program config documents scope asked
  have lists := Program.listingAfterFetch_lists paths Scope.localTargetRef "HEAD"
  have plain : ∀ p ∈ paths, p.IsPlain := by
    simp only [paths, List.forall_mem_cons, List.not_mem_nil, false_imp_iff, implies_true, and_true]
    exact ⟨⟨by decide, by decide, by decide⟩, ⟨by decide, by decide, by decide⟩⟩
  have selected : (Scope.select config .empty "topic" documents).run program.behaviour [] =
      (.ok scope, asked ++ [.changedFiles Scope.localTargetRef "HEAD"]) := by
    decide +kernel
  obtain ⟨read, chosen⟩ := changedFiles_listing_iff program paths
  obtain ⟨files, answered, -, same⟩ := read asked Scope.localTargetRef "HEAD" lists
  have here := chosen config .empty "topic" "main" documents [] asked scope selected rfl lists plain
  refine ⟨lists, plain, ⟨files, answered, same.mpr plain⟩, selected, ?_, ?_⟩
  · exact (here ⟨⟨"./docs/a b.md"⟩, true⟩ (by decide)).1.mp (by decide)
  · exact (here ⟨⟨"c.md"⟩, true⟩ (by decide)).2.mp (by decide)

/-- Of a name with a letter beyond ASCII the quotes and escapes are read, and the space in front of
another name is lost: a changed document is left out, and one that did not change is checked. -/
theorem changedFiles_listing_misread :
    let accented : FilePath := ⟨Text.bytes "é.md", by decide⟩
    let spaced : FilePath := ⟨Text.bytes " a.md", by decide⟩
    let program := Program.listingAfterFetch [accented, spaced]
    let config := { Config.standard ⟨"."⟩ with targetRepository := some "o/r" }
    let documents : List Document := [⟨⟨"é.md"⟩, true⟩, ⟨⟨"a.md"⟩, true⟩]
    let asked := callsBeforeListing
    program.Lists asked Scope.localTargetRef "HEAD" [accented, spaced] ∧
      accented.Names ⟨"é.md"⟩ ∧ spaced.Names ⟨" a.md"⟩ ∧
      listing [accented, spaced] = Text.bytes "\"\\303\\251.md\"\n a.md\n" ∧
      program.behaviour asked (.changedFiles Scope.localTargetRef "HEAD") =
        .ok [⟨"\"\\303\\251.md\""⟩, ⟨"a.md"⟩] ∧
      (Scope.select config .empty "topic" documents).run program.behaviour [] =
        (.ok ⟨.changed "main", [⟨⟨"a.md"⟩, true⟩], [⟨⟨"é.md"⟩, true⟩]⟩,
          asked ++ [.changedFiles Scope.localTargetRef "HEAD"]) := by
  intro accented spaced program config documents asked
  have lists := Program.listingAfterFetch_lists [accented, spaced] Scope.localTargetRef "HEAD"
  have read : program.behaviour asked (.changedFiles Scope.localTargetRef "HEAD") =
      .ok [⟨"\"\\303\\251.md\""⟩, ⟨"a.md"⟩] := by
    rw [behaviour_changedFiles lists]
    decide +kernel
  exact ⟨lists, ⟨⟨"é.md"⟩, rfl, rfl⟩, ⟨⟨" a.md"⟩, rfl, rfl⟩, by decide +kernel, read, by decide +kernel⟩

end Git

end LinkGate
