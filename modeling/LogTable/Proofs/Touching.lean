import LogTable.View
import LogTable.Proofs.Stability

/-!
# Rows are worked out when they are touched

A question about a row that there is touches the row, unless it is for a column that there is not; a snapshot touches
the rows that it shows. From one time that a table forgets its rows to the next, whatever is asked and while lines come
behind the others, the table keeps the rows that have been touched and no others, and has reported of each one that the
format does not match, once, when it was touched for the first time.

`Watched` says this of a table, the rows touched so far and the records so far. The rows are a list, in the order in
which they were touched and as often, so that one thing asked behind another only makes it longer
(`Watched.after_line?`, `after_cell?`, `after_row?`, `after_rows`). A row that is kept is not reported again because
it is in the list already (`Watched.touch`).

Results: `rows_derived_when_touched`.
-/
namespace LogTable

/-! ## What may happen -/

/-- Something that is asked of a table. -/
inductive Inquiry
  | question (q : Question)
  | capture (start stop : Nat)

/-- What may happen between two times that a table forgets its rows: something is asked, lines come behind the others,
the table is told of growth. -/
inductive Moment
  | inquire (i : Inquiry)
  | append (more : Lines)
  | grown (c : LineChange)

/-- The rows that are asked for, of a table with so many columns. -/
def Inquiry.rows (count : Nat) : Inquiry → List Nat
  | .question (.cell row column) | .question (.datum row column _) => if column < count then [row] else []
  | .question (.row row) => [row]
  | .question (.kept _) => []
  | .capture start stop => List.range' start (stop - start)

/-- The rows that are touched: those asked for that there are. -/
def Inquiry.touched (lines : Lines) (count : Nat) (i : Inquiry) : List Nat :=
  (i.rows count).filter (· < lines.size)

namespace Moment

def touched (lines : Lines) (count : Nat) : Moment → List Nat
  | .inquire i => i.touched lines count
  | .append _ | .grown _ => []

def linesAfter (lines : Lines) : Moment → Lines
  | .append more => lines ++ more
  | .inquire _ | .grown _ => lines

/-- The rows that are touched from now on, in this order. -/
def allTouched (count : Nat) : Lines → List Moment → List Nat
  | _, [] => []
  | lines, m :: rest => m.touched lines count ++ allTouched count (m.linesAfter lines) rest

end Moment

/-- What is said of a row that the format does not match; rows are counted from one there. -/
def mismatch? (f : Format) (lines : Lines) (row : Nat) : Option String :=
  lines[row]?.bind fun raw =>
    if Line.parse f raw = .unparsed then some s!"Line {row + 1} does not match: {raw}" else none

def Table.inquire (t : Table) (lines : Lines) : Inquiry → Logged Table
  | .question (.cell row column) => do return (← t.cell? lines row column).2
  | .question (.datum row column role) => do return (← t.datum? lines row column role).2
  | .question (.row row) => do return (← t.row? lines row).2
  | .question (.kept _) => pure t
  | .capture start stop => do return (← Snapshot.capture t lines start stop).2

namespace Desk

def live (d : Desk) : Moment → Logged Desk
  | .inquire i => do return { d with table := ← d.table.inquire d.lines i }
  | .append more => pure { d with lines := d.lines ++ more }
  | .grown c => do return { d with table := (← d.table.notice c).1 }

def liveAll (d : Desk) : List Moment → Logged Desk
  | [] => pure d
  | m :: rest => do (← d.live m).liveAll rest

end Desk

/-! ## Warnings -/

/-- The reports of rows that the format does not match. -/
def warnings (records : List Record) : List Record := records.filter (·.level = .warn)

theorem warnings_append (first rest : List Record) : warnings (first ++ rest) = warnings first ++ warnings rest :=
  List.filter_append ..

/-- What is to be reported of a row. -/
def report? (f : Format) (lines : Lines) (row : Nat) : Option Record :=
  lines[row]?.bind fun raw => if Line.parse f raw = .unparsed then some (.unmatchedLine row raw) else none

theorem Line.isParsed_read (f : Format) (raw : String) : (read f raw).isParsed = (parse f raw).isParsed := by
  unfold read
  cases parse f raw <;> rfl

namespace Table

variable (t : Table) {f : Format} {lines : Lines} {row : Nat} {raw : String}

theorem records_addRow (hr : lines[row]? = some raw) : (t.addRow f row raw).records = (report? f lines row).toList := by
  simp only [addRow, Logged.records_bind, Logged.noteIf, Logged.records_pure, List.append_nil, report?, hr,
    Option.bind_some, Line.isParsed_read]
  cases Line.parse f raw <;> simp [Line.isParsed]

/-- A row that is not kept is worked out. -/
theorem line?_of_not_kept (hf : t.format = some f) (hr : lines[row]? = some raw) (hk : t.kept? row = none) :
    t.line? lines row = do let (line, t) ← t.addRow f row raw; return (some line, t) := by
  unfold kept? at hk
  unfold line?
  simp only [hf, hr, hk]

/-- It is kept then, beside the others. -/
theorem kept?_line? (hf : t.format = some f) (hr : lines[row]? = some raw) (hk : t.kept? row = none) (r : Nat) :
    (t.line? lines row).value.2.kept? r = if row = r then some (Line.read f raw) else t.kept? r := by
  rw [t.line?_of_not_kept hf hr hk]
  exact RowStore.get?_insert ..

theorem records_line? (hf : t.format = some f) (hr : lines[row]? = some raw) (hk : t.kept? row = none) :
    (t.line? lines row).records = (report? f lines row).toList := by
  rw [t.line?_of_not_kept hf hr hk, ← t.records_addRow hr]
  exact List.append_nil _

/-- The cells of a row that is kept are read off it. -/
theorem quiet_cells {t : Table} {line : Line} (hf : t.format = some f) (hr : lines[row]? = some raw)
    (hk : t.kept? row = some line) (columns : List Nat) :
    (t.cells lines row columns).value.2 = t ∧ (t.cells lines row columns).records = [] := by
  induction columns with
  | nil => exact ⟨rfl, rfl⟩
  | cons column columns ih =>
    have hcell : (t.cell? lines row column).value.2 = t ∧ (t.cell? lines row column).records = [] := by
      unfold cell?
      split
      · rw [line?_of_kept hf hr hk]
        exact ⟨rfl, rfl⟩
      · exact ⟨rfl, rfl⟩
    simp only [cells, Logged.value_bind, Logged.records_bind, Logged.value_pure, Logged.records_pure, hcell, ih,
      List.append_nil, and_self]

end Table

theorem text_of_report {f : Format} {lines : Lines} {row : Nat} (w : Wording) :
    (report? f lines row).map (·.text w) = mismatch? f lines row := by
  unfold report? mismatch?
  cases lines[row]? with
  | none => rfl
  | some raw =>
    simp only [Option.bind_some]
    split <;> rfl

theorem level_of_report {f : Format} {lines : Lines} {row : Nat} {r : Record} (h : report? f lines row = some r) :
    r.level = .warn := by
  obtain ⟨raw, -, h⟩ := Option.bind_eq_some_iff.1 h
  split at h
  · cases h
    rfl
  · cases h

/-- What is touched again adds nothing to what has been touched. -/
theorem eraseDups_concat_of_mem {row : Nat} {rows : List Nat} (h : row ∈ rows) :
    (rows ++ [row]).eraseDups = rows.eraseDups := by
  rw [List.eraseDups_append]
  simp [List.removeAll, h]

theorem eraseDups_concat_of_not_mem {row : Nat} {rows : List Nat} (h : row ∉ rows) :
    (rows ++ [row]).eraseDups = rows.eraseDups ++ [row] := by
  rw [List.eraseDups_append]
  simp [List.removeAll, h, List.eraseDups_cons]

/-- Of a range of rows those that there are. -/
theorem filter_range' (size start n : Nat) :
    (List.range' start n).filter (· < size) = List.range' start (min (start + n) size - start) := by
  induction n generalizing start with
  | zero => simp [Nat.sub_eq_zero_of_le (Nat.min_le_left start size)]
  | succ n ih =>
    rw [List.range'_succ, List.filter_cons, ih]
    by_cases h : start < size
    · have hn : min (start + (n + 1)) size - start = min (start + 1 + n) size - (start + 1) + 1 := by omega
      rw [if_pos (decide_eq_true h), hn, List.range'_succ]
    · have hnone : min (start + 1 + n) size - (start + 1) = 0 ∧ min (start + (n + 1)) size - start = 0 := by omega
      rw [if_neg (by simpa using h), hnone.1, hnone.2]
      rfl

/-! ## One thing asked -/

/-- A table after some rows have been touched. -/
structure Watched (f : Format) (lines : Lines) (t : Table) (rows : List Nat) (records : List Record) : Prop where
  format : t.format = some f
  present : ∀ row ∈ rows, row < lines.size
  kept : ∀ row, t.kept? row = if row ∈ rows then lines[row]?.map (Line.read f) else none
  warned : warnings records = rows.eraseDups.filterMap (report? f lines)

namespace Watched

variable {f : Format} {lines : Lines} {t : Table} {rows : List Nat} {records : List Record}

theorem fresh (h : Watched f lines t rows records) : t.Fresh lines := by
  intro row line hk
  rw [h.kept] at hk
  split at hk
  · obtain ⟨raw, hr, rfl⟩ := Option.map_eq_some_iff.1 hk
    simp only [Table.sheet, Sheet.line?, h.format, hr]
  · cases hk

theorem kept?_eq_some (h : Watched f lines t rows records) {row : Nat} {raw : String} (hr : lines[row]? = some raw)
    (hmem : row ∈ rows) : t.kept? row = some (Line.read f raw) := by
  rw [h.kept, if_pos hmem, hr, Option.map_some]

/-- Growth of the lines leaves rows that have been touched as they are. -/
theorem after_append (h : Watched f lines t rows records) (more : Lines) :
    Watched f (lines ++ more) t rows records := by
  have hsame : ∀ row ∈ rows, (lines ++ more)[row]? = lines[row]? := fun row hrow =>
    Array.getElem?_append_left (h.present row hrow)
  refine ⟨h.format, fun row hrow => ?_, fun row => ?_, ?_⟩
  · rw [Array.size_append]
    exact Nat.lt_add_right _ (h.present row hrow)
  · rw [h.kept]
    split
    · rename_i hrow
      rw [hsame row hrow]
    · rfl
  · rw [h.warned]
    refine List.filterMap_congr fun row hrow => ?_
    rw [report?, report?, hsame row (List.mem_eraseDups.1 hrow)]

/-- To touch a row is to keep it and to report it if it has not been touched before. -/
theorem touch (h : Watched f lines t rows records) {row : Nat} (hrow : row < lines.size) :
    Watched f lines (t.line? lines row).value.2 (rows ++ [row]) (records ++ (t.line? lines row).records) := by
  have hr := Array.getElem?_eq_getElem hrow
  have hpresent : ∀ r ∈ rows ++ [row], r < lines.size := by
    intro r hmem
    rcases List.mem_append.1 hmem with hmem | hmem
    · exact h.present r hmem
    · rw [List.mem_singleton.1 hmem]
      exact hrow
  by_cases hmem : row ∈ rows
  · rw [Table.line?_of_kept h.format hr (h.kept?_eq_some hr hmem)]
    refine ⟨h.format, hpresent, fun r => ?_, ?_⟩
    · have hsame : r ∈ rows ++ [row] ↔ r ∈ rows := by
        rw [List.mem_append, List.mem_singleton, or_iff_left_iff_imp]
        rintro rfl
        exact hmem
      simp only [Logged.value_pure, h.kept, hsame]
    · rw [Logged.records_pure, List.append_nil, h.warned, eraseDups_concat_of_mem hmem]
  · have hk := h.kept row
    rw [if_neg hmem] at hk
    refine ⟨(t.format_line? lines row).trans h.format, hpresent, fun r => ?_, ?_⟩
    · rw [t.kept?_line? h.format hr hk, h.kept]
      by_cases he : row = r
      · subst he
        simp [hr]
      · have hother : r ∈ rows ++ [row] ↔ r ∈ rows := by simp [Ne.symm he]
        simp only [if_neg he, hother]
    · rw [t.records_line? h.format hr hk, warnings_append, h.warned, eraseDups_concat_of_not_mem hmem,
        List.filterMap_append]
      cases hreport : report? f lines row with
      | none => simp [warnings, hreport]
      | some r => simp [warnings, hreport, level_of_report hreport]

theorem after_line? (h : Watched f lines t rows records) (row : Nat) :
    Watched f lines (t.line? lines row).value.2 (rows ++ [row].filter (· < lines.size))
      (records ++ (t.line? lines row).records) := by
  by_cases hrow : row < lines.size
  · rw [List.filter_singleton, decide_eq_true hrow]
    exact h.touch hrow
  · rw [List.filter_singleton, decide_eq_false hrow,
      Table.line?_of_no_line (Array.getElem?_eq_none (Nat.le_of_not_lt hrow))]
    simpa using h

theorem after_cell? (h : Watched f lines t rows records) (row column : Nat) :
    Watched f lines (t.cell? lines row column).value.2
      (rows ++ (if column < f.columnCount then [row] else []).filter (· < lines.size))
      (records ++ (t.cell? lines row column).records) := by
  unfold Table.cell?
  rw [Table.columnCount_of_format h.format]
  split
  · have hline := h.after_line? row
    simpa using hline
  · simpa using h

theorem after_datum? (h : Watched f lines t rows records) (row column : Nat) (role : Table.Role) :
    Watched f lines (t.datum? lines row column role).value.2
      (rows ++ (if column < f.columnCount then [row] else []).filter (· < lines.size))
      (records ++ (t.datum? lines row column role).records) := by
  have hcell := h.after_cell? row column
  unfold Table.datum?
  simpa using hcell

/-- The row is touched first; its cells touch nothing else. -/
theorem after_row? (h : Watched f lines t rows records) (row : Nat) :
    Watched f lines (t.row? lines row).value.2 (rows ++ [row].filter (· < lines.size))
      (records ++ (t.row? lines row).records) := by
  have hline := h.after_line? row
  have hanswer := Table.line?_answers h.fresh row
  unfold Table.row?
  by_cases hrow : row < lines.size
  · have hr := Array.getElem?_eq_getElem hrow
    have hsome : (t.line? lines row).value.1.isNone = false := by
      rw [hanswer.value]
      simp only [Table.sheet, Sheet.line?, h.format, hr, Option.isNone_some]
    have hk := hline.kept?_eq_some hr (by simp [hrow])
    obtain ⟨htable, hrecords⟩ :=
      Table.quiet_cells hline.format hr hk (List.range (t.line? lines row).value.2.columnCount)
    simp only [Logged.value_bind, Logged.records_bind, hsome, Bool.false_eq_true, if_false, htable, hrecords,
      Logged.value_pure, Logged.records_pure, List.append_nil]
    exact hline
  · have hnone : (t.line? lines row).value.1.isNone = true := by
      rw [hanswer.value]
      simp only [Table.sheet, Sheet.line?, h.format, Array.getElem?_eq_none (Nat.le_of_not_lt hrow), Option.isNone_none]
    simp only [Logged.value_bind, Logged.records_bind, hnone, if_true, Logged.value_pure, Logged.records_pure,
      List.append_nil]
    exact hline

theorem after_rows (h : Watched f lines t rows records) (asked : List Nat) :
    Watched f lines (t.rows lines asked).value.2 (rows ++ asked.filter (· < lines.size))
      (records ++ (t.rows lines asked).records) := by
  induction asked generalizing t rows records with
  | nil => simpa [Table.rows] using h
  | cons row rest ih =>
    have hrest := ih (h.after_row? row)
    rw [List.append_assoc, ← List.filter_append, List.append_assoc] at hrest
    simpa [Table.rows] using hrest

/-- A snapshot asks for the rows of its range that there are. -/
theorem after_capture (h : Watched f lines t rows records) (start stop : Nat) :
    Watched f lines (Snapshot.capture t lines start stop).value.2
      (rows ++ (List.range' start (stop - start)).filter (· < lines.size))
      (records ++ (Snapshot.capture t lines start stop).records) := by
  have hrows := h.after_rows (List.range' start (min stop lines.size - start))
  rw [filter_range'] at hrows ⊢
  have hsame : min (start + (min stop lines.size - start)) lines.size - start =
      min (start + (stop - start)) lines.size - start := by omega
  rw [hsame] at hrows
  simpa only [Snapshot.capture, Logged.value_bind, Logged.records_bind, Logged.value_pure, Logged.records_pure,
    List.append_nil] using hrows

/-- The answer to a question may be left aside. -/
theorem leave {α : Type} {q : Logged (α × Table)} (h : Watched f lines q.value.2 rows (records ++ q.records)) :
    Watched f lines (do return (← q).2 : Logged Table).value rows
      (records ++ (do return (← q).2 : Logged Table).records) := by
  simpa only [Logged.value_bind, Logged.records_bind, Logged.value_pure, Logged.records_pure, List.append_nil] using h

theorem after_inquire (h : Watched f lines t rows records) (i : Inquiry) :
    Watched f lines (t.inquire lines i).value (rows ++ i.touched lines f.columnCount)
      (records ++ (t.inquire lines i).records) := by
  cases i with
  | capture start stop => exact (h.after_capture start stop).leave
  | question q =>
    cases q with
    | cell row column => exact (h.after_cell? row column).leave
    | datum row column role => exact (h.after_datum? row column role).leave
    | row row => exact (h.after_row? row).leave
    | kept row =>
      simpa only [Table.inquire, Logged.value_pure, Logged.records_pure, List.append_nil, Inquiry.touched, Inquiry.rows,
        List.filter_nil] using h

end Watched

/-! ## One moment and many -/

/-- Growth that is told of is no warning and leaves the rows that are kept. -/
theorem Watched.after_notice {f : Format} {lines : Lines} {t : Table} {rows : List Nat} {records : List Record}
    (h : Watched f lines t rows records) {c : LineChange} (hc : c.grows = true) :
    Watched f lines (t.notice c).value.1 rows (records ++ (t.notice c).records) := by
  have hrecords : (t.notice c).records = [.rowsAppended c.old c.new] := by
    unfold Table.notice LineChange.effect
    rw [if_pos hc]
    rfl
  rw [hrecords, Table.notice_grows hc]
  refine ⟨h.format, h.present, h.kept, ?_⟩
  rw [warnings_append, ← h.warned]
  exact List.append_nil _

namespace Desk

theorem lines_live (d : Desk) (m : Moment) : (d.live m).value.lines = m.linesAfter d.lines := by
  cases m <;> rfl

theorem watched_live {f : Format} {d : Desk} {rows : List Nat} {records : List Record}
    (h : Watched f d.lines d.table rows records) {m : Moment} (hgrown : ∀ c, m = .grown c → c.grows = true) :
    Watched f (d.live m).value.lines (d.live m).value.table (rows ++ m.touched d.lines f.columnCount)
      (records ++ (d.live m).records) := by
  cases m with
  | inquire i =>
    simp only [live, Logged.value_bind, Logged.records_bind, Logged.value_pure, Logged.records_pure, List.append_nil]
    exact h.after_inquire i
  | append more =>
    simp only [live, Logged.value_pure, Logged.records_pure, List.append_nil, Moment.touched]
    exact h.after_append more
  | grown c =>
    simp only [live, Logged.value_bind, Logged.records_bind, Logged.value_pure, Logged.records_pure, List.append_nil,
      Moment.touched]
    exact h.after_notice (hgrown c rfl)

/-- The induction is on the moments still to come. -/
theorem watched_liveAll {f : Format} {d : Desk} {rows : List Nat} {records : List Record}
    (h : Watched f d.lines d.table rows records) {ms : List Moment} (hgrown : ∀ c, .grown c ∈ ms → c.grows = true) :
    Watched f (d.liveAll ms).value.lines (d.liveAll ms).value.table
      (rows ++ Moment.allTouched f.columnCount d.lines ms) (records ++ (d.liveAll ms).records) := by
  induction ms generalizing d rows records with
  | nil => simpa [liveAll, Moment.allTouched] using h
  | cons m rest ih =>
    have hnext := watched_live h fun c he => hgrown c (he ▸ List.mem_cons_self)
    have hrest := ih hnext fun c hc => hgrown c (List.mem_cons_of_mem m hc)
    rw [List.append_assoc, List.append_assoc, lines_live] at hrest
    exact hrest

/-- A table that has just forgotten its rows. -/
theorem watched_reset {t : Table} {f : Format} (hf : t.format = some f) (lines : Lines) :
    Watched f lines t.reset.value [] [] where
  format := hf
  present := by simp
  kept row := by simpa using t.kept?_reset row
  warned := rfl

/-- A snapshot shows the rows of its range that there are, one behind the other. -/
theorem snapshot_rows {d : Desk} {f : Format} (hf : d.table.format = some f) (hfresh : d.table.Fresh d.lines)
    (start stop : Nat) :
    let shot := (Snapshot.capture d.table d.lines start stop).value.1
    shot.firstRow = start ∧ shot.rows.length = min stop d.lines.size - start ∧
      ∀ i, start + i < min stop d.lines.size →
        ∃ cells, shot.rows[i]? = some cells ∧ d.row? (start + i) = some cells := by
  intro shot
  have hthere : ∀ row ∈ List.range' start (min stop d.lines.size - start),
      (d.table.sheet d.lines).row? row = some ((d.table.sheet d.lines).cells f row) := by
    intro row hrow
    rw [List.mem_range'_1] at hrow
    exact Sheet.row?_eq_some hf (show row < d.lines.size by omega)
  have hrows : shot.rows =
      (List.range' start (min stop d.lines.size - start)).map ((d.table.sheet d.lines).cells f) := by
    have hall := (List.filterMap_congr hthere).trans (congrFun List.filterMap_eq_map _)
    exact ((Table.rows_answers hfresh _).value).trans hall
  refine ⟨rfl, by rw [hrows, List.length_map, List.length_range'], fun i hi => ?_⟩
  refine ⟨(d.table.sheet d.lines).cells f (start + i), ?_, ?_⟩
  · rw [hrows, List.getElem?_map, List.getElem?_range' (by omega), Nat.one_mul]
    rfl
  · rw [row?, (Table.row?_answers hfresh _).value]
    exact Sheet.row?_eq_some hf (show start + i < d.lines.size by omega)

end Desk

/-- **Rows are worked out when they are touched, and reported once.** Let a table with a format forget its rows, and let
then anything happen but that it forgets them again, over lines that only come behind the others. The table keeps the
rows that have been touched, each as the format reads its line, and no others; only rows that there were are touched.
What it reports as unmatched are the touched rows that the format does not match, each once, in the order in which
they were touched first. A snapshot starts at its first row and leaves none out. -/
theorem Desk.rows_derived_when_touched {t : Table} {f : Format} (hf : t.format = some f) (lines : Lines)
    (ms : List Moment) (hgrown : ∀ c, .grown c ∈ ms → c.grows = true) :
    let run := Desk.liveAll ⟨t.reset.value, lines⟩ ms
    let d := run.value
    let touched := Moment.allTouched f.columnCount lines ms
    (∀ row, d.table.kept? row = if row ∈ touched then d.lines[row]?.map (Line.read f) else none) ∧
    (∀ row ∈ touched, row < d.lines.size) ∧
    (∀ w, (warnings run.records).map (·.text w) = touched.eraseDups.filterMap (mismatch? f d.lines)) ∧
    ∀ start stop,
      let shot := (Snapshot.capture d.table d.lines start stop).value.1
      shot.firstRow = start ∧ shot.rows.length = min stop d.lines.size - start ∧
        ∀ i, start + i < min stop d.lines.size →
          ∃ cells, shot.rows[i]? = some cells ∧ d.row? (start + i) = some cells := by
  intro run d touched
  have h := watched_liveAll (d := ⟨t.reset.value, lines⟩) (watched_reset hf lines) hgrown
  rw [List.nil_append, List.nil_append] at h
  refine ⟨h.kept, h.present, fun w => ?_, snapshot_rows h.format h.fresh⟩
  rw [h.warned, List.map_filterMap]
  simp only [text_of_report]
  rfl

/-- Two lines that the format does not match, asked for again and again, once for a column that there is not, while a
third comes that it does not match either. -/
def looks : List Moment :=
  [.inquire (.question (.cell 0 1)), .inquire (.question (.cell 2 0)), .inquire (.capture 1 9), .append #["d"],
    .grown ⟨4, 3⟩, .inquire (.question (.row 7)), .inquire (.question (.row 3)),
    .inquire (.question (.datum 2 0 .foreground)), .inquire (.question (.kept 0))]

theorem Desk.rows_derived_when_touched_looks :
    let f := (Format.new "(?<x>b)(?<y>c)").value
    let t := (Table.ofFormat f).value
    (t.format = some f ∧ ∀ c, .grown c ∈ looks → c.grows = true) ∧
      let run := Desk.liveAll ⟨t.reset.value, #["a", "bc", "z"]⟩ looks
      let d := run.value
      (∀ row, d.table.kept? row = if row ∈ [2, 1, 2, 3, 2] then d.lines[row]?.map (Line.read f) else none) ∧
      ∀ w, (warnings run.records).map (·.text w) = ["Line 3 does not match: z", "Line 4 does not match: d"] := by
  intro f t
  have hgrown : ∀ c, .grown c ∈ looks → c.grows = true := by
    intro c hc
    simp only [looks, List.mem_cons, Moment.grown.injEq, reduceCtorEq, List.not_mem_nil, false_or, or_false] at hc
    rw [hc]
    rfl
  refine ⟨⟨rfl, hgrown⟩, ?_⟩
  obtain ⟨hkept, -, hwarned, -⟩ := rows_derived_when_touched (t := t) (f := f) rfl #["a", "bc", "z"] looks hgrown
  have htouched : Moment.allTouched f.columnCount #["a", "bc", "z"] looks = [2, 1, 2, 3, 2] := by decide +kernel
  have hmismatch : [2, 1, 2, 3, 2].eraseDups.filterMap (mismatch? f #["a", "bc", "z", "d"]) =
      ["Line 3 does not match: z", "Line 4 does not match: d"] := by decide +kernel
  rw [htouched] at hkept hwarned
  exact ⟨hkept, fun w => (hwarned w).trans hmismatch⟩

end LogTable
