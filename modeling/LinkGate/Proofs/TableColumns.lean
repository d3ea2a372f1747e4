import LinkGate.Proofs.TableLines

/-!
# Columns of tables

The table of addresses has three columns, of 70, 20 and 8 characters with a blank between them. No status is too
long for its column, an address that is too long is cut between two of its characters, and numbers of attempts
below 10 ^ 8 have room for their digits, so that all rows are equally long.
-/

namespace LinkGate

open Text

/-! ## Cells -/

namespace Table

/-- A cell of a column holds a text and, behind it, as many blanks as there is room for. -/
structure Fills (width : Nat) (text cell : String) : Prop where
  text_first : ∃ count, cell = text ++ String.ofList (List.replicate count ' ')
  length_eq : cell.length = width

theorem Fills.eq_of_length_eq {width : Nat} {text cell : String} (fills : Fills width text cell)
    (full : text.length = width) : cell = text := by
  obtain ⟨⟨count, rfl⟩, length⟩ := fills
  rw [String.length_append, String.length_ofList, List.length_replicate, full, Nat.add_eq_left] at length
  rw [length, List.replicate_zero, String.ofList_nil, String.append_empty]

theorem length_padded (width : Nat) (s : String) : (padded width s).length = max width s.length := by
  rw [padded, String.length_ofList, List.length_append, List.length_replicate, String.length_toList]
  omega

theorem fills_padded {width : Nat} {s : String} (fits : s.length ≤ width) :
    Fills width s (padded width s) := by
  constructor
  · refine ⟨width - s.length, ?_⟩
    rw [padded, String.ofList_append, String.ofList_toList]
  · rw [length_padded, Nat.max_eq_left fits]

theorem urlCell_of_length_le {url : String} (short : url.length ≤ urlLimit) : urlCell url = url := by
  rw [urlCell, if_neg (Nat.not_lt.mpr short)]

/-- An address that is too long is cut between two characters. -/
theorem urlCell_of_lt_length {url : String} (long : urlLimit < url.length) :
    ∃ front rest : String, url = front ++ rest ∧ front.length = urlLimit ∧ urlCell url = front ++ "..." := by
  refine ⟨String.ofList (url.toList.take urlLimit), String.ofList (url.toList.drop urlLimit), ?_, ?_, ?_⟩
  · rw [← String.ofList_append, List.take_append_drop, String.ofList_toList]
  · rw [String.length_ofList, List.length_take, String.length_toList]
    omega
  · rw [urlCell, if_pos long]

theorem length_urlCell_le (url : String) : (urlCell url).length ≤ 70 := by
  rcases Nat.lt_or_ge urlLimit url.length with long | short
  · obtain ⟨front, rest, -, length, cell⟩ := urlCell_of_lt_length long
    rw [cell, String.length_append, length]
    decide
  · rw [urlCell_of_length_le short]
    exact Nat.le_trans short (by decide)

/-- A column of 20 characters has room for any status. -/
theorem length_statusCell_le (status : Status) : (statusCell status).length ≤ 20 := by
  cases status with
  | code value =>
      have digits : value.toNat.repr.length ≤ 5 :=
        (Nat.length_repr_le_iff (by decide)).mpr (Nat.lt_trans value.toNat_lt (by decide))
      simp only [statusCell]
      split
      · decide
      · split
        · decide
        · rw [String.length_append]
          change 2 + value.toNat.repr.length ≤ 20
          omega
  | failed error =>
      simp only [statusCell]
      generalize error.kind = kind
      cases kind <;> decide

variable {o : Outcome}

theorem length_attempts_le (few : o.attempts < 10 ^ 8) : (toString o.attempts).length ≤ 8 :=
  (Nat.length_repr_le_iff (by decide)).mpr few

theorem length_row {url status attempts : String} (urlFits : url.length ≤ 70)
    (statusFits : status.length ≤ 20) (attemptsFit : attempts.length ≤ 8) :
    (row url status attempts).length = 100 := by
  rw [row]
  simp only [String.length_append, (fills_padded urlFits).length_eq, (fills_padded statusFits).length_eq,
    (fills_padded attemptsFit).length_eq]
  rfl

theorem length_outcomeRow (few : o.attempts < 10 ^ 8) : (outcomeRow o).length = 100 :=
  length_row (length_urlCell_le o.url) (length_statusCell_le o.status) (length_attempts_le few)

end Table

/-! ## Rows -/

namespace Text

theorem length_written {rows : List String} {width : Nat} (same : ∀ row ∈ rows, row.length = width) :
    (written rows).length = (width + 1) * rows.length := by
  induction rows with
  | nil => rfl
  | cons row rest ih =>
      obtain ⟨here, there⟩ := List.forall_mem_cons.mp same
      rw [written_cons, String.length_append, String.length_append, ih there, here, List.length_cons,
        Nat.mul_succ, Nat.add_comm]
      rfl

end Text

namespace Report

open Table

/-- The rows in front of those of the addresses. -/
def headingRows : List String :=
  ["", row "URL" "STATUS" "ATTEMPTS", String.ofList (List.replicate 100 '=')]

theorem length_written_headingRows : (written headingRows).length = 203 := by
  have wide : ∀ row ∈ headingRows.tail, row.length = 100 := by
    refine List.forall_mem_cons.mpr ⟨length_row (by decide) (by decide) (by decide), ?_⟩
    refine List.forall_mem_singleton.mpr ?_
    rw [String.length_ofList, List.length_replicate]
  change (written ("" :: headingRows.tail)).length = 203
  rw [written_cons, String.length_append, length_written wide]
  rfl

/-- The row of an outcome stands behind the heading and the rows of the outcomes in front of it. -/
theorem tableText_of_outcomes {r : Report} {earlier later : List Outcome} {o : Outcome}
    (listed : r.outcomes = earlier ++ o :: later) :
    r.tableText = written headingRows ++ written (earlier.map outcomeRow) ++ outcomeRow o ++ "\n" ++
      written (later.map outcomeRow ++ r.failureLines ++ r.summaryLines) := by
  have rows : r.outcomeLines =
      headingRows ++ earlier.map outcomeRow ++ outcomeRow o :: later.map outcomeRow := by
    have nonempty : r.outcomes.isEmpty = false := by
      rw [listed, List.isEmpty_eq_false_iff]
      exact List.append_ne_nil_of_right_ne_nil _ (List.cons_ne_nil _ _)
    rw [outcomeLines, if_neg (Bool.eq_false_iff.mp nonempty), listed, List.map_append, List.map_cons,
      ← List.append_assoc]
    rfl
  rw [tableText_eq_written, rows, List.append_assoc, List.append_assoc, List.cons_append,
    ← List.append_assoc (later.map _), written_append, written_append, written_cons, ← String.append_assoc,
    ← String.append_assoc]

/-- The row of an outcome with less than 10 ^ 8 attempts has 100 characters: a cell of 70 characters, one of 20
and one of 8, with a blank between them. The first cell holds the address if this has at most 67 characters, and
otherwise its first 67 characters and three dots; the second holds the status and the third the number of
attempts, and blanks fill each cell. In the table the row stands behind the heading and the rows of the outcomes
in front of it, which have 100 characters each if the same is true of these outcomes. -/
theorem outcome_fills_columns (r : Report) {earlier later : List Outcome} {o : Outcome}
    (listed : r.outcomes = earlier ++ o :: later) (few : o.attempts < 10 ^ 8) :
    let before := written headingRows ++ written (earlier.map outcomeRow)
    ∃ url status attempts after : String,
      r.tableText = before ++ outcomeRow o ++ "\n" ++ after ∧
      outcomeRow o = url ++ " " ++ status ++ " " ++ attempts ∧
      (outcomeRow o).length = 100 ∧
      url.length = 70 ∧
      (o.url.length ≤ 67 → Fills 70 o.url url) ∧
      (67 < o.url.length →
        ∃ front rest, o.url = front ++ rest ∧ front.length = 67 ∧ url = front ++ "...") ∧
      Fills 20 (statusCell o.status) status ∧
      Fills 8 (toString o.attempts) attempts ∧
      ((∀ other ∈ earlier, other.attempts < 10 ^ 8) → before.length = 203 + 101 * earlier.length) := by
  intro before
  have urlFills := fills_padded (length_urlCell_le o.url)
  refine ⟨padded 70 (urlCell o.url), padded 20 (statusCell o.status), padded 8 (toString o.attempts),
    written (later.map outcomeRow ++ r.failureLines ++ r.summaryLines),
    tableText_of_outcomes listed, rfl, length_outcomeRow few, urlFills.length_eq, ?short, ?long,
    fills_padded (length_statusCell_le o.status), fills_padded (length_attempts_le few), ?place⟩
  case short =>
    intro short
    rw [urlCell_of_length_le short] at urlFills ⊢
    exact urlFills
  case long =>
    intro long
    obtain ⟨front, rest, whole, length, cell⟩ := urlCell_of_lt_length long
    refine ⟨front, rest, whole, length, ?_⟩
    have full : (front ++ "...").length = 70 := by
      rw [String.length_append, length]
      rfl
    rw [cell] at urlFills ⊢
    exact urlFills.eq_of_length_eq full
  case place =>
    intro allFew
    have rows : ∀ row ∈ earlier.map outcomeRow, row.length = 100 := by
      intro row member
      obtain ⟨other, isEarlier, rfl⟩ := List.mem_map.mp member
      exact length_outcomeRow (allFew other isEarlier)
    rw [String.length_append, length_written_headingRows, length_written rows, List.length_map]

/-- An address of 68 characters, the longest status and the most attempts that fit, behind another outcome. -/
theorem outcome_fills_columns_of_long_address :
    let first : Outcome := ⟨String.ofList (List.replicate 67 'ä'), .code 429, 6⟩
    let second : Outcome :=
      ⟨String.ofList (List.replicate 68 'ä'), .failed ⟨.tooManyRedirects, "loop"⟩, 99999999⟩
    let r : Report := ⟨"main", .full, [], [], 0, [first, second], []⟩
    r.outcomes = [first] ++ second :: [] ∧ second.attempts < 10 ^ 8 ∧
      outcomeRow second =
        String.ofList (List.replicate 67 'ä') ++ "... ⚠\ufe0f  TooManyRedirects 99999999" ∧
      ∃ before after, r.tableText = before ++ outcomeRow second ++ "\n" ++ after ∧ before.length = 304 := by
  intro first second r
  have listed : r.outcomes = [first] ++ second :: [] := rfl
  have few : second.attempts < 10 ^ 8 := by decide
  obtain ⟨url, status, attempts, after, table, cells, -, -, -, long, statusFills, attemptsFill, place⟩ :=
    outcome_fills_columns r listed few
  have tooLong : 67 < second.url.length := by
    rw [String.length_ofList, List.length_replicate]
    decide
  obtain ⟨front, rest, whole, length, rfl⟩ := long tooLong
  have shown : front = String.ofList (List.replicate 67 'ä') := by
    have rows : front.toList ++ rest.toList = List.replicate 68 'ä' := by
      rw [← String.toList_append, ← whole, String.toList_ofList]
    rw [← String.ofList_toList (s := front), (List.append_eq_replicate_iff.mp rows).2.1, String.length_toList,
      length]
  have digits : toString second.attempts = "99999999" := by decide
  rw [digits] at attemptsFill
  refine ⟨listed, few, ?_, _, after, table, place (List.forall_mem_singleton.mpr (by decide))⟩
  rw [cells, shown, statusFills.eq_of_length_eq (by decide), attemptsFill.eq_of_length_eq (by decide),
    String.append_assoc, String.append_assoc, String.append_assoc, String.append_assoc]
  rfl

end Report

end LinkGate
