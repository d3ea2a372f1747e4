import LinkGate.Manifest.Decode
import LinkGate.Proofs.JsonText
import Mathlib.Data.List.DropRight

/-!
# Readers and texts that are cut off

A reader takes the front of a text and gives back what is left. `Reads` says of a reader and a front that the
front is taken whatever follows it, and that nothing is taken of what remains when the front is cut off. Both
carry over from the parts of a reader to the whole. `Takes` says the same by tokens: the tokens in front of a
text are taken, and what is left has the tokens behind them.
-/

namespace LinkGate.Manifest

open Json

/-! ## Cutting off -/

/-- Whether a row of characters is a longer one whose end is missing. -/
def CutOff (short whole : List Char) : Prop :=
  short <+: whole ∧ short ≠ whole

namespace CutOff

variable {c : Char} {short s t : List Char}

theorem nil_cons (c : Char) (s : List Char) : CutOff [] (c :: s) :=
  ⟨List.nil_prefix, List.cons_ne_nil c s |>.symm⟩

theorem not_nil : ¬ CutOff short [] :=
  fun ⟨front, different⟩ => different (List.prefix_nil.mp front)

theorem of_cons (cut : CutOff short (c :: s)) :
    short = [] ∨ ∃ less, short = c :: less ∧ CutOff less s := by
  obtain ⟨front, different⟩ := cut
  cases short with
  | nil => exact Or.inl rfl
  | cons d less =>
      obtain ⟨rfl, less_front⟩ := List.cons_prefix_cons.mp front
      exact Or.inr ⟨less, rfl, less_front, fun same => different (by rw [same])⟩

/-- A row that is cut off ends within its first part or after it. -/
theorem of_append (cut : CutOff short (s ++ t)) :
    CutOff short s ∨ ∃ less, short = s ++ less ∧ CutOff less t := by
  induction s generalizing short with
  | nil => exact Or.inr ⟨short, rfl, cut⟩
  | cons c s ih =>
      rcases cut.of_cons with rfl | ⟨less, rfl, further⟩
      · exact Or.inl (nil_cons c s)
      · rcases ih further with ⟨front, different⟩ | ⟨least, rfl, within⟩
        · exact Or.inl ⟨List.cons_prefix_cons.mpr ⟨rfl, front⟩,
            fun same => different (List.cons.inj same).2⟩
        · exact Or.inr ⟨least, rfl, within⟩

theorem length_lt (cut : CutOff short s) : short.length < s.length :=
  Nat.lt_of_le_of_ne cut.1.length_le fun same => cut.2 (cut.1.eq_of_length same)

end CutOff

/-! ## Readers -/

/-- A front of a text that a reader takes and does not take part of. A reader that goes in rounds takes it if
it has enough of them, and refuses to take part of it with any number of rounds. -/
structure Reads {β : Type} (enough : Prop) (read : List Char → Except Fault β) (front : List Char)
    (result : List Char → β) : Prop where
  whole : enough → ∀ rest, read (front ++ rest) = .ok (result rest)
  cut : ∀ short, CutOff short front → ∃ fault, read short = .error fault

namespace Reads

variable {α β : Type} {enough : Prop} {read : List Char → Except Fault β} {front : List Char}
  {result : List Char → β}

theorem congr {same : List Char → Except Fault β} (reads : Reads enough read front result)
    (eq : ∀ s, same s = read s) : Reads enough same front result := by
  rwa [show same = read from funext eq]

theorem mono {less : Prop} (reads : Reads enough read front result) (implies : less → enough) :
    Reads less read front result :=
  ⟨fun holds => reads.whole (implies holds), reads.cut⟩

theorem done (eq : ∀ s, read s = .ok (result s)) : Reads enough read [] result :=
  ⟨fun _ => eq, fun _ cut => absurd cut CutOff.not_nil⟩

theorem cons {c : Char} {next : List Char → Except Fault β} (reads : Reads enough next front result)
    (step : ∀ s, read (c :: s) = next s) (atEnd : ∃ fault, read [] = .error fault) :
    Reads enough read (c :: front) result := by
  refine ⟨fun holds rest => ?_, fun short cut => ?_⟩
  · rw [List.cons_append, step]
    exact reads.whole holds rest
  · rcases cut.of_cons with rfl | ⟨less, rfl, further⟩
    · exact atEnd
    · rw [step]
      exact reads.cut less further

theorem bind {first : List Char → Except Fault α} {found : List Char → α} {ahead : List Char}
    {next : α → Except Fault β} (reads : Reads True first ahead found)
    (others : Reads enough (fun s => next (found s)) front result) :
    Reads enough (fun s => first s >>= next) (ahead ++ front) result := by
  refine ⟨fun holds rest => ?_, fun short cut => ?_⟩
  · rw [List.append_assoc, reads.whole trivial]
    exact others.whole holds rest
  · rcases cut.of_append with cut | ⟨less, rfl, further⟩
    · obtain ⟨fault, refused⟩ := reads.cut short cut
      exact ⟨fault, by rw [refused]; rfl⟩
    · rw [reads.whole trivial]
      exact others.cut less further

theorem map (reads : Reads enough read front result) (change : β → α) :
    Reads enough (fun s => (read s).map change) front fun s => change (result s) := by
  refine ⟨fun holds rest => ?_, fun short cut => ?_⟩
  · exact congrArg (Except.map change) (reads.whole holds rest)
  · obtain ⟨fault, refused⟩ := reads.cut short cut
    exact ⟨fault, congrArg (Except.map change) refused⟩

end Reads

/-! ## Strings -/

theorem reads_hexUnit {value : Nat} {digits : List Char} (written : HexUnit value digits) :
    Reads True hexUnit digits fun s => (value, s) := by
  refine ⟨fun _ rest => hexUnit_of_hexUnit written rest, fun short cut => ?_⟩
  have few : short.length < 4 := by
    have less := cut.length_lt
    cases written
    exact less
  unfold hexUnit
  split
  · exact ⟨_, rfl⟩
  · split
    · simp only [List.length_cons] at few
      omega
    · exact ⟨_, rfl⟩

theorem hexChar_refuses {s : List Char} (refused : ∃ fault, hexUnit s = .error fault) :
    ∃ fault, hexChar s = .error fault := by
  obtain ⟨fault, refused⟩ := refused
  exact ⟨fault, by rw [hexChar, refused]; rfl⟩

theorem reads_hexChar_unit {c : Char} {digits : List Char} (number : HexUnit c.toNat digits) :
    Reads True hexChar digits fun s => (c, s) := by
  refine ⟨fun _ rest => hexChar_of_unit number rest, fun short cut => ?_⟩
  exact hexChar_refuses ((reads_hexUnit number).cut short cut)

theorem reads_hexChar_pair {c : Char} {high low : Nat} {digits others : List Char}
    (first : HexUnit high digits) (second : HexUnit low others)
    (isHigh : 0xD800 ≤ high ∧ high ≤ 0xDBFF) (isLow : 0xDC00 ≤ low ∧ low ≤ 0xDFFF)
    (number : c.toNat = 0x10000 + (high - 0xD800) * 0x400 + (low - 0xDC00)) :
    Reads True hexChar (digits ++ '\\' :: 'u' :: others) fun s => (c, s) := by
  refine ⟨fun _ rest => ?_, fun short cut => ?_⟩
  · rw [List.append_assoc]
    exact hexChar_of_pair first second isHigh isLow number rest
  rcases cut.of_append with within | ⟨less, rfl, marks⟩
  · exact hexChar_refuses ((reads_hexUnit first).cut short within)
  rw [hexChar, hexUnit_of_hexUnit first]
  simp only [bind, Except.bind]
  rw [if_neg (by omega), if_neg (by omega)]
  rcases marks.of_cons with rfl | ⟨less, rfl, letter⟩
  · exact ⟨_, rfl⟩
  rcases letter.of_cons with rfl | ⟨less, rfl, within⟩
  · exact ⟨_, rfl⟩
  obtain ⟨fault, refused⟩ := (reads_hexUnit second).cut less within
  exact ⟨fault, by simp only [pairMark, if_true, refused]⟩

theorem reads_escape_letter {c letter : Char} (stands : escapeLetter? letter = some c) :
    Reads True Manifest.escape [letter] fun s => (c, s) :=
  Reads.cons (.done fun _ => rfl) (escape_of_escaped_letter stands) ⟨_, rfl⟩

/-- A string whose first escape is cut off is refused. -/
theorem string_refuses_escape {c : Char} {tail short : List Char}
    (reads : Reads True Manifest.escape tail fun s => (c, s)) (cut : CutOff short ('\\' :: tail)) :
    ∃ fault, Manifest.string short = .error fault := by
  rcases cut.of_cons with rfl | ⟨less, rfl, further⟩
  · exact ⟨_, by rw [Manifest.string]⟩
  · obtain ⟨fault, refused⟩ := reads.cut less further
    refine ⟨fault, ?_⟩
    rw [Manifest.string]
    split
    · next failed => rw [Except.error.inj (failed.symm.trans refused)]
    · next found => rw [refused] at found; contradiction

theorem string_refuses_escaped {c : Char} {piece short : List Char} (escaped : Escaped c piece)
    (cut : CutOff short piece) : ∃ fault, Manifest.string short = .error fault := by
  cases escaped with
  | plain =>
      rcases cut.of_cons with rfl | ⟨less, rfl, further⟩
      · exact ⟨_, by rw [Manifest.string]⟩
      · exact absurd further CutOff.not_nil
  | letter stands => exact string_refuses_escape (reads_escape_letter stands) cut
  | unit number =>
      exact string_refuses_escape ((reads_hexChar_unit number).cons (fun _ => rfl) ⟨_, rfl⟩) cut
  | pair first second isHigh isLow number =>
      exact string_refuses_escape
        ((reads_hexChar_pair first second isHigh isLow number).cons (fun _ => rfl) ⟨_, rfl⟩) cut

/-- A string is read up to its closing quote. -/
theorem reads_string {s text : List Char} (written : Written s text) :
    Reads True Manifest.string (text ++ ['"']) fun rest => (s, rest) := by
  refine ⟨fun _ rest => ?_, fun short cut => ?_⟩
  · rw [List.append_assoc]
    exact string_of_written written rest
  · induction written generalizing short with
    | nil =>
        rcases cut.of_cons with rfl | ⟨less, rfl, further⟩
        · exact ⟨_, by rw [Manifest.string]⟩
        · exact absurd further CutOff.not_nil
    | cons first _ ih =>
        rw [List.append_assoc] at cut
        rcases cut.of_append with cut | ⟨less, rfl, further⟩
        · exact string_refuses_escaped first cut
        · obtain ⟨fault, refused⟩ := ih less further
          exact ⟨fault, by rw [string_append_of_escaped first, refused]; rfl⟩

/-! ## Words -/

theorem reads_word (letters : List Char) : Reads True (word letters) letters fun s => s := by
  induction letters with
  | nil => exact .done fun _ => by rw [word]
  | cons letter letters ih => exact ih.cons (fun s => by rw [word, if_pos rfl]) ⟨_, rfl⟩

/-! ## Blanks -/

theorem skipBlanks_append {gap : List Char} (blank : ∀ c ∈ gap, isBlank c = true) (s : List Char) :
    skipBlanks (gap ++ s) = skipBlanks s :=
  List.dropWhile_append_of_pos blank

theorem skipBlanks_skipBlanks (s : List Char) : skipBlanks (skipBlanks s) = skipBlanks s :=
  List.dropWhile_idempotent isBlank s

def IgnoresBlanks {β : Type} (read : List Char → Except Fault β) : Prop :=
  ∀ s, read (skipBlanks s) = read s

theorem IgnoresBlanks.append {β : Type} {read : List Char → Except Fault β} (ignores : IgnoresBlanks read)
    {gap : List Char} (blank : ∀ c ∈ gap, isBlank c = true) (s : List Char) : read (gap ++ s) = read s := by
  rw [← ignores, skipBlanks_append blank, ignores]

theorem Reads.after_blanks {β : Type} {enough : Prop} {read : List Char → Except Fault β}
    {front gap : List Char} {result : List Char → β} (reads : Reads enough read front result)
    (ignores : IgnoresBlanks read) (atEnd : ∃ fault, read [] = .error fault)
    (blank : ∀ c ∈ gap, isBlank c = true) : Reads enough read (gap ++ front) result := by
  refine ⟨fun holds rest => ?_, fun short cut => ?_⟩
  · rw [List.append_assoc, ignores.append blank]
    exact reads.whole holds rest
  · rcases cut.of_append with ⟨less, -⟩ | ⟨less, rfl, further⟩
    · have onlyBlanks := ignores.append (fun c mem => blank c (less.subset mem)) []
      rw [List.append_nil] at onlyBlanks
      rwa [onlyBlanks]
    · rw [ignores.append blank]
      exact reads.cut less further

/-! ## Tokens -/

variable {token : Token} {ts : List Token} {text : List Char}

/-- In front of a token are blanks, and behind it the tokens that follow. -/
theorem lexes_cons (lexes : Lexes (token :: ts) text) :
    ∃ gap piece rest, text = gap ++ (piece ++ rest) ∧ (∀ c ∈ gap, isBlank c = true) ∧
      token.Spelled piece ∧ Lexes ts rest := by
  generalize whole : token :: ts = row at lexes
  induction lexes with
  | nil => contradiction
  | @blank c _ s blank _ ih =>
      obtain ⟨gap, piece, rest, rfl, blanks, spelled, behind⟩ := ih whole
      exact ⟨c :: gap, piece, rest, rfl, List.forall_mem_cons.mpr ⟨blank, blanks⟩, spelled, behind⟩
  | @token _ _ piece s spelled _ behind =>
      obtain ⟨rfl, rfl⟩ := List.cons.inj whole
      exact ⟨[], piece, s, rfl, List.forall_mem_nil _, spelled, behind⟩

theorem blank_of_lexes_nil (lexes : Lexes [] text) : ∀ c ∈ text, isBlank c = true := by
  generalize none : ([] : List Token) = row at lexes
  induction lexes with
  | nil => exact List.forall_mem_nil _
  | blank blank _ ih => exact List.forall_mem_cons.mpr ⟨blank, ih none⟩
  | token => contradiction

/-- A reader takes what stands in a text before some tokens. -/
def Takes {β : Type} (read : List Char → Except Fault β) (result : List Char → β) (text : List Char)
    (ts : List Token) : Prop :=
  ∃ front rest, text = front ++ rest ∧ Lexes ts rest ∧ Reads True read front result

namespace Takes

variable {α β : Type} {read : List Char → Except Fault β} {result : List Char → β} {left : List Token}

theorem done (lexes : Lexes ts text) (eq : ∀ s, read s = .ok (result s)) : Takes read result text ts :=
  ⟨[], text, rfl, lexes, .done eq⟩

theorem cons {c : Char} {next : List Char → Except Fault β} (takes : Takes next result text ts)
    (step : ∀ s, read (c :: s) = next s) (atEnd : ∃ fault, read [] = .error fault) :
    Takes read result (c :: text) ts := by
  obtain ⟨front, rest, rfl, lexes, reads⟩ := takes
  exact ⟨c :: front, rest, rfl, lexes, reads.cons step atEnd⟩

theorem bind {first : List Char → Except Fault α} {found : List Char → α} {next : α → Except Fault β}
    (takes : Takes first found text ts)
    (others : ∀ rest, Lexes ts rest → Takes (fun s => next (found s)) result rest left) :
    Takes (fun s => first s >>= next) result text left := by
  obtain ⟨ahead, behind, rfl, lexes, reads⟩ := takes
  obtain ⟨front, rest, rfl, lexes, further⟩ := others behind lexes
  exact ⟨ahead ++ front, rest, (List.append_assoc ..).symm, lexes, reads.bind further⟩

theorem map (takes : Takes read result text ts) (change : β → α) :
    Takes (fun s => (read s).map change) (fun s => change (result s)) text ts := by
  obtain ⟨front, rest, rfl, lexes, reads⟩ := takes
  exact ⟨front, rest, rfl, lexes, reads.map change⟩

/-- A reader that ignores blanks begins at the next token. -/
theorem after_blanks (lexes : Lexes (token :: ts) text) (ignores : IgnoresBlanks read)
    (atEnd : ∃ fault, read [] = .error fault)
    (takes : ∀ piece rest, token.Spelled piece → Lexes ts rest → Takes read result (piece ++ rest) left) :
    Takes read result text left := by
  obtain ⟨gap, piece, behind, rfl, blank, spelled, lexes⟩ := lexes_cons lexes
  obtain ⟨front, rest, same, lexes, reads⟩ := takes piece behind spelled lexes
  exact ⟨gap ++ front, rest, by rw [same, List.append_assoc], lexes, reads.after_blanks ignores atEnd blank⟩

theorem after_mark {mark : Mark} {next : List Char → Except Fault β} (lexes : Lexes (.mark mark :: ts) text)
    (ignores : IgnoresBlanks read) (step : ∀ s, read (mark.char :: s) = next s)
    (atEnd : ∃ fault, read [] = .error fault)
    (takes : ∀ rest, Lexes ts rest → Takes next result rest left) : Takes read result text left := by
  refine after_blanks lexes ignores atEnd fun piece rest spelled lexes => ?_
  cases spelled
  exact (takes rest lexes).cons step atEnd

theorem after_quote {value : String} {next : List Char → Except Fault β}
    (lexes : Lexes (.string value :: ts) text) (ignores : IgnoresBlanks read)
    (step : ∀ s, read ('"' :: s) = next s) (atEnd : ∃ fault, read [] = .error fault)
    (reads : ∀ content, Written value.toList content → Reads True next (content ++ ['"']) result) :
    Takes read result text ts := by
  refine after_blanks lexes ignores atEnd fun piece rest spelled lexes => ?_
  cases spelled with
  | string written => exact ⟨_, rest, rfl, lexes, (reads _ written).cons step atEnd⟩

end Takes

/-! ## Rounds -/

/-- A reader that goes in rounds takes what stands in a text before some tokens, in fewer rounds than that
has characters. -/
def TakesInRounds {β : Type} (read : Nat → List Char → Except Fault β) (result : List Char → β)
    (text : List Char) (ts : List Token) : Prop :=
  ∃ front rest, text = front ++ rest ∧ Lexes ts rest ∧
    ∀ rounds, Reads (front.length < rounds) (read rounds) front result

namespace TakesInRounds

variable {α β : Type} {read : Nat → List Char → Except Fault β} {result : List Char → β}
  {left : List Token}

theorem done (lexes : Lexes ts text) (eq : ∀ rounds s, read rounds s = .ok (result s)) :
    TakesInRounds read result text ts :=
  ⟨[], text, rfl, lexes, fun rounds => .done (eq rounds)⟩

theorem map (takes : TakesInRounds read result text ts) (change : β → α) :
    TakesInRounds (fun rounds s => (read rounds s).map change) (fun s => change (result s)) text ts := by
  obtain ⟨front, rest, rfl, lexes, reads⟩ := takes
  exact ⟨front, rest, rfl, lexes, fun rounds => (reads rounds).map change⟩

/-- One round before all others. It takes at least one character, as there is nothing to take at the end. -/
theorem round {first : List Char → Except Fault α} {found : List Char → α}
    {next : Nat → α → Except Fault β} (never : ∀ s, ∃ fault, read 0 s = .error fault)
    (step : ∀ rounds s, read (rounds + 1) s = first s >>= next rounds)
    (atEnd : ∃ fault, first [] = .error fault) (takes : Takes first found text ts)
    (others : ∀ rest, Lexes ts rest →
      TakesInRounds (fun rounds s => next rounds (found s)) result rest left) :
    TakesInRounds read result text left := by
  obtain ⟨ahead, behind, rfl, lexes, reads⟩ := takes
  obtain ⟨front, rest, rfl, lexes, further⟩ := others behind lexes
  -- What takes nothing could be read at the end of a text, where it is refused.
  have nonempty : 0 < ahead.length := by
    rw [List.length_pos_iff]
    rintro rfl
    obtain ⟨fault, refused⟩ := atEnd
    have taken := reads.whole trivial []
    rw [List.append_nil, refused] at taken
    contradiction
  refine ⟨ahead ++ front, rest, (List.append_assoc ..).symm, lexes, fun rounds => ?_⟩
  cases rounds with
  | zero => exact ⟨fun none => absurd none (Nat.not_lt_zero _), fun short _ => never short⟩
  | succ rounds =>
      refine ((reads.bind (further rounds)).congr (step rounds)).mono fun enough => ?_
      rw [List.length_append] at enough
      omega

theorem takes (takes : TakesInRounds read result text ts) :
    Takes (fun s => read (s.length + 1) s) result text ts := by
  obtain ⟨front, rest, rfl, lexes, reads⟩ := takes
  refine ⟨front, rest, rfl, lexes, fun _ more => ?_, fun short cut => (reads _).cut short cut⟩
  refine (reads _).whole ?_ more
  rw [List.length_append]
  omega

end TakesInRounds

end LinkGate.Manifest
