import LinkGate.Report.Table
import LinkGate.Run
import Mathlib.Algebra.Ring.Nat
import Mathlib.Data.List.Infix

/-!
# Lines of tables

A table is written row by row, with a line end behind each row, and is read line by line. A row that holds a
line end is read as several lines. The row of a failure shows texts as they came from a document, a list of
documents or the network, so that a link can bring line ends into it: then parts of one failure are read as
lines of their own, which may look like any other line of the table.
-/

namespace LinkGate

namespace Text

/-! ## Rows and lines -/

def written (rows : List String) : String :=
  String.join (rows.map (· ++ "\n"))

/-- The lines of a text. What stands behind the last line end is no line. -/
def lines (s : String) : List String :=
  (s.toList.splitOn '\n').dropLast.map String.ofList

theorem written_append (first second : List String) :
    written (first ++ second) = written first ++ written second := by
  rw [written, List.map_append, String.join_append]
  rfl

theorem written_nil : written [] = "" :=
  rfl

theorem written_cons (row : String) (rest : List String) :
    written (row :: rest) = row ++ "\n" ++ written rest := by
  rw [written, List.map_cons, String.join_cons]
  rfl

theorem written_map {α : Type} (row : α → String) (items : List α) :
    written (items.map row) = String.join (items.map fun item => row item ++ "\n") := by
  rw [written, List.map_map]
  rfl

theorem lines_written (rows : List String) :
    lines (written rows) = rows.flatMap fun row => (row.toList.splitOn '\n').map String.ofList := by
  induction rows with
  | nil => rfl
  | cons row rest ih =>
      have divided : (written (row :: rest)).toList = row.toList ++ '\n' :: (written rest).toList := by
        simp [written]
      rw [lines, divided, List.splitOn_append_cons_self,
        List.dropLast_append_of_ne_nil (List.splitOn_ne_nil _ _), List.map_append, List.flatMap_cons]
      exact congrArg _ ih

/-- A row has one part more than separators. -/
theorem length_splitOn (c : Char) (s : List Char) : (s.splitOn c).length = s.count c + 1 := by
  induction s with
  | nil => rfl
  | cons first rest ih =>
      rw [List.splitOn_cons_eq_if_modifyHead, List.count_cons]
      split
      · rw [List.length_cons, ih]
      · rw [List.length_modifyHead, ih]

/-- There is a line for each row and for each line end in a row. -/
theorem length_lines_written (rows : List String) :
    (lines (written rows)).length = rows.length + (rows.map (·.toList.count '\n')).sum := by
  rw [lines_written]
  induction rows with
  | nil => rfl
  | cons row rest ih =>
      rw [List.flatMap_cons, List.length_append, ih, List.length_map, length_splitOn, List.length_cons,
        List.map_cons, List.sum_cons]
      omega

theorem length_lines_written_iff {rows : List String} :
    (lines (written rows)).length = rows.length ↔ ∀ row ∈ rows, '\n' ∉ row.toList := by
  rw [length_lines_written, Nat.add_eq_left, List.sum_eq_zero_iff_forall_eq_nat]
  simp only [List.forall_mem_map, List.count_eq_zero]

/-- The lines are the rows exactly if no row holds a line end. -/
theorem lines_written_eq_iff {rows : List String} :
    lines (written rows) = rows ↔ ∀ row ∈ rows, '\n' ∉ row.toList := by
  constructor
  · intro same
    exact length_lines_written_iff.mp (congrArg List.length same)
  · intro single
    rw [lines_written]
    induction rows with
    | nil => rfl
    | cons row rest ih =>
        obtain ⟨here, there⟩ := List.forall_mem_cons.mp single
        rw [List.flatMap_cons, List.splitOn_eq_singleton here, ih there, List.map_singleton,
          String.ofList_toList]
        rfl

theorem newline_not_mem_toDigits (n : Nat) : '\n' ∉ Nat.toDigits 10 n := by
  intro member
  exact absurd (Nat.isDigit_of_mem_toDigits (by decide) (by decide) member) (by decide)

end Text

open Text

/-! ## Failures -/

/-- The texts that are shown of a failure. -/
def Failure.shown (f : Failure) : List String :=
  f.origin.document.text ::
    match f.flaw with
    | .missingLocalFile path => [path.text, f.origin.target]
    | .notAUrl => [f.origin.target]
    | .badStatus url _ => [url]
    | .transport url error => [url, error.message]

/-- A failure is shown on one line exactly if each of its texts is. -/
theorem Failure.newline_not_mem_text (f : Failure) :
    '\n' ∉ f.text.toList ↔ ∀ s ∈ f.shown, '\n' ∉ s.toList := by
  obtain ⟨⟨document, target, line⟩, flaw⟩ := f
  cases flaw with
  | missingLocalFile path => simp [text, shown, newline_not_mem_toDigits]
  | notAUrl => simp [text, shown, newline_not_mem_toDigits]
  | badStatus url code => simp [text, shown, newline_not_mem_toDigits]
  | transport url error => simp [text, shown, newline_not_mem_toDigits]

/-! ## Other rows -/

namespace Table

theorem newline_mem_padded (width : Nat) (s : String) :
    '\n' ∈ (padded width s).toList ↔ '\n' ∈ s.toList := by
  simp [padded]

theorem newline_not_mem_statusCell (status : Status) : '\n' ∉ (statusCell status).toList := by
  cases status with
  | code value =>
      simp only [statusCell]
      split
      · decide
      · split
        · decide
        · simp [newline_not_mem_toDigits]
  | failed error =>
      simp only [statusCell]
      generalize error.kind = kind
      cases kind <;> decide

/-- The row of an outcome is one line exactly if what is shown of the address is. -/
theorem newline_mem_outcomeRow (o : Outcome) :
    '\n' ∈ (outcomeRow o).toList ↔ '\n' ∈ (urlCell o.url).toList := by
  simp [outcomeRow, row, newline_mem_padded, newline_not_mem_statusCell, newline_not_mem_toDigits]

end Table

namespace Report

variable (r : Report)

theorem outcomeLines_single :
    (∀ row ∈ r.outcomeLines, '\n' ∉ row.toList) ↔
      ∀ o ∈ r.outcomes, '\n' ∉ (Table.urlCell o.url).toList := by
  unfold outcomeLines
  split
  · next none => simp [List.isEmpty_iff.mp none]
  · simp [Table.row, Table.newline_mem_padded, Table.newline_mem_outcomeRow]

theorem rows_single :
    (∀ row ∈ r.failures.map fun f => "   " ++ f.text, '\n' ∉ row.toList) ↔
      ∀ f ∈ r.failures, ∀ s ∈ f.shown, '\n' ∉ s.toList := by
  simp only [List.forall_mem_map, ← Failure.newline_not_mem_text]
  simp

theorem failureLines_single :
    (∀ row ∈ r.failureLines, '\n' ∉ row.toList) ↔
      ∀ f ∈ r.failures, ∀ s ∈ f.shown, '\n' ∉ s.toList := by
  rw [← rows_single]
  unfold failureLines
  split
  · next none => simp [List.isEmpty_iff.mp none]
  · simp

theorem summaryLines_single :
    (∀ row ∈ r.summaryLines, '\n' ∉ row.toList) ↔
      '\n' ∉ r.branch.toList ∧ '\n' ∉ r.mode.text.toList := by
  simp [summaryLines, newline_not_mem_toDigits]

/-! ## Whole tables -/

theorem tableText_eq_written : r.tableText = written (r.outcomeLines ++ r.failureLines ++ r.summaryLines) :=
  rfl

/-- A table is the rows of the addresses, those of the failures behind their heading if there are any, and
the summary behind a blank line. -/
theorem tableText_eq :
    r.tableText = written r.outcomeLines ++
      (if r.failures = [] then ""
        else "\n❌ Broken links:\n" ++ written (r.failures.map fun f => "   " ++ f.text)) ++
      "\n📊 Summary:\n" ++ written (r.summaryLines.drop 2) := by
  have heading : written r.failureLines = if r.failures = [] then ""
      else "\n❌ Broken links:\n" ++ written (r.failures.map fun f => "   " ++ f.text) := by
    unfold failureLines
    simp only [List.isEmpty_iff]
    split
    · rfl
    · rw [written_append]
      rfl
  have summary : written r.summaryLines = "\n📊 Summary:\n" ++ written (r.summaryLines.drop 2) := by
    have parts : r.summaryLines = ["", "📊 Summary:"] ++ r.summaryLines.drop 2 := rfl
    rw [parts, written_append]
    rfl
  rw [tableText_eq_written, written_append, written_append, heading, summary, ← String.append_assoc]

/-- Between the heading and the blank line in front of the summary there are as many lines as failures, each
of them the text of its failure behind three blanks, exactly if no text that is shown of a failure holds a
line end. All lines of the table are read as they are written exactly if, moreover, no part of an address
that is shown, no name of a branch and no name of the branch to compare with holds one. -/
theorem failures_on_own_lines_iff (r : Report) :
    let rows := r.failures.map fun f => "   " ++ f.text
    let single := ∀ f ∈ r.failures, ∀ s ∈ f.shown, '\n' ∉ s.toList
    r.tableText = written r.outcomeLines ++
        (if r.failures = [] then "" else "\n❌ Broken links:\n" ++ written rows) ++
        "\n📊 Summary:\n" ++ written (r.summaryLines.drop 2) ∧
      ((lines (written rows)).length = r.failures.length ↔ single) ∧
      (lines (written rows) = rows ↔ single) ∧
      (lines r.tableText = r.outcomeLines ++ r.failureLines ++ r.summaryLines ↔
        single ∧ (∀ o ∈ r.outcomes, '\n' ∉ (Table.urlCell o.url).toList) ∧
          '\n' ∉ r.branch.toList ∧ '\n' ∉ r.mode.text.toList) := by
  intro rows single
  have rowsSingle : (∀ row ∈ rows, '\n' ∉ row.toList) ↔ single := r.rows_single
  have count : rows.length = r.failures.length := List.length_map _
  refine ⟨r.tableText_eq, ?_, ?_, ?_⟩
  · rw [← count, length_lines_written_iff, rowsSingle]
  · rw [lines_written_eq_iff, rowsSingle]
  · have whole : lines r.tableText = r.outcomeLines ++ r.failureLines ++ r.summaryLines ↔
        ∀ row ∈ r.outcomeLines ++ r.failureLines ++ r.summaryLines, '\n' ∉ row.toList :=
      lines_written_eq_iff
    rw [whole, List.forall_mem_append, List.forall_mem_append, outcomeLines_single, failureLines_single,
      summaryLines_single, and_assoc, and_left_comm]

/-- A link of a document brings line ends into the table, so that one failure is read as three lines, the
second of which reports a failure of another document that is not even in the list. -/
theorem failure_forges_lines :
    let document : Path := ⟨"a.md"⟩
    let text := "[x](<b&#10;   c.md:9: 'http://d' gives code 404&#10;e>)"
    let target := "b\n   c.md:9: 'http://d' gives code 404\ne"
    let context : Context := ⟨⟨"."⟩, "main", none, Scope.whole [⟨document, true⟩]⟩
    let files : Files :=
      { read := fun path => if path.text = "./a.md" then .ok text.toUTF8 else .error .notFound
        has := fun _ => false }
    let failure : Failure := ⟨⟨document, target, 1⟩, .missingLocalFile ⟨target⟩⟩
    let report : Report := ⟨"main", .full, [document], [], 1, [], [failure]⟩
    let rows := report.failures.map fun f => "   " ++ f.text
    let forged : Failure := ⟨⟨⟨"c.md"⟩, "http://d", 9⟩, .badStatus "http://d" 404⟩
    (context.run files .standard none fun _ _ => ⟨.code 200, 0⟩).result = .ok report ∧
      (lines (written rows)).length ≠ report.failures.length ∧
      forged ∉ report.failures ∧ "   " ++ forged.text ∈ lines (written rows) := by
  decide +kernel

end Report

end LinkGate
