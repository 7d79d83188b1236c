import LogTable.Table.Basic

/-!
# The table without its store

A `Sheet` is lines under a format. What a table shows can be read off it without keeping anything:
`Sheet.line?`, `cell?`, `datum?` and `row?` work out everything afresh.

A table is `Fresh` for lines if every row it keeps is that of the line there is now. A fresh table answers
like its sheet, whatever it is asked, and is fresh afterwards (`cell?_answers`, `datum?_answers`,
`row?_answers`, `rows_answers`); `Answers` says both at once, so that questions can be put one behind the
other. Lines that come behind the others keep a table fresh (`Fresh.append`), and so does forgetting
(`fresh_setFormat`, `fresh_reset`, `fresh_notice_reset`), whatever the lines are.
-/
namespace LogTable

structure Sheet where
  /-- Nothing until a format is set. -/
  format : Option Format
  lines : Lines

namespace Sheet

/-- The row of a line. -/
def line? (s : Sheet) (row : Nat) : Option Line :=
  match s.format, s.lines[row]? with
  | some f, some raw => some (Line.read f raw)
  | _, _ => none

/-- A cell, if there are a format, a line and a column for it. Of a line that the format does not match
only the last column shows something, and that is the text without colors. -/
def cell? (s : Sheet) (row column : Nat) : Option Cell :=
  match s.format, s.lines[row]? with
  | some f, some raw =>
    if column < f.columnCount then
      match Line.read f raw with
      | .parsed cells => cells[column]?
      | .unparsed => if column + 1 = f.columnCount then some { text := raw } else none
    else none
  | _, _ => none

/-- The text of a cell, or one of its colors if it has that. -/
def datum? (s : Sheet) (row column : Nat) (role : Table.Role) : Option Table.Datum :=
  match s.cell? row column, role with
  | some cell, .text => some (.text cell.text)
  | some cell, .foreground => cell.fg.map .color
  | some cell, .background => cell.bg.map .color
  | none, _ => none

/-- The cells of a row, one for each column of the format. -/
def cells (s : Sheet) (f : Format) (row : Nat) : List Cell :=
  (List.range f.columnCount).map fun column => (s.cell? row column).getD .blank

/-- A whole row. -/
def row? (s : Sheet) (row : Nat) : Option (List Cell) :=
  match s.format, s.lines[row]? with
  | some f, some _ => some (s.cells f row)
  | _, _ => none

theorem line?_eq_some {s : Sheet} {f : Format} {row : Nat} {line : Line} (hf : s.format = some f)
    (h : s.line? row = some line) : ∃ raw, s.lines[row]? = some raw ∧ line = Line.read f raw := by
  unfold line? at h
  rw [hf] at h
  split at h
  · rename_i f' raw he hr
    cases he
    cases h
    exact ⟨raw, hr, rfl⟩
  · cases h

theorem length_row? {s : Sheet} {f : Format} {row : Nat} {cells : List Cell} (hf : s.format = some f)
    (h : s.row? row = some cells) : cells.length = f.columnCount := by
  unfold row? at h
  rw [hf] at h
  split at h
  · rename_i he _
    cases he
    cases h
    rw [cells, List.length_map, List.length_range]
  · cases h

/-- There is a row for every line. -/
theorem row?_eq_some {s : Sheet} {f : Format} {row : Nat} (hf : s.format = some f)
    (h : row < s.lines.size) : s.row? row = some (s.cells f row) := by
  unfold row?
  rw [hf, Array.getElem?_eq_getElem h]

/-- Lines behind the others do not touch a row that is there. -/
theorem line?_append {s : Sheet} {row : Nat} {line : Line} (h : s.line? row = some line) (more : Lines) :
    ({ s with lines := s.lines ++ more } : Sheet).line? row = some line := by
  unfold line? at h ⊢
  split at h
  · rename_i f raw hf hr
    have hlt : row < s.lines.size := (Array.getElem?_eq_some_iff.1 hr).1
    simp only [hf, Array.getElem?_append_left hlt, hr]
    exact h
  · cases h

end Sheet

namespace Table

/-- What the table is asked of when its lines are these. -/
def sheet (t : Table) (lines : Lines) : Sheet := ⟨t.format, lines⟩

/-- Every row that is kept is the row of its line. -/
def Fresh (t : Table) (lines : Lines) : Prop :=
  ∀ row line, t.kept? row = some line → (t.sheet lines).line? row = some line

/-! ## Changes -/

theorem fresh_empty (lines : Lines) : ({} : Table).Fresh lines := by
  intro row line hk
  simp [kept?, RowStore.get?] at hk

theorem Fresh.append {t : Table} {lines : Lines} (h : t.Fresh lines) (more : Lines) :
    t.Fresh (lines ++ more) :=
  fun row line hk => Sheet.line?_append (h row line hk) more

theorem kept?_reset (t : Table) (row : Nat) : t.reset.value.kept? row = none := RowStore.get?_clear t.store row

theorem fresh_reset (t : Table) (lines : Lines) : t.reset.value.Fresh lines := by
  intro row line hk
  rw [kept?_reset] at hk
  cases hk

theorem fresh_setFormat (t : Table) (f : Format) (lines : Lines) : (t.setFormat f).value.Fresh lines :=
  fresh_reset { t with format := some f } lines

theorem format_setFormat (t : Table) (f : Format) : (t.setFormat f).value.format = some f := rfl

/-- A change that is growth leaves the rows that are kept; any other forgets them. -/
theorem notice_grows {t : Table} {c : LineChange} (h : c.grows = true) :
    (t.notice c).value = ({ t with store := t.store.cover c.new }, .inserted c.old c.new) := by
  unfold notice LineChange.effect
  rw [if_pos h]
  rfl

theorem notice_not_grows {t : Table} {c : LineChange} (h : c.grows = false) :
    (t.notice c).value = (t.reset.value, .reset) := by
  unfold notice LineChange.effect
  rw [if_neg (by simp [h])]
  rfl

theorem format_notice (t : Table) (c : LineChange) : (t.notice c).value.1.format = t.format := by
  cases h : c.grows with
  | true => rw [notice_grows h]
  | false => rw [notice_not_grows h]; rfl

theorem fresh_notice {t : Table} {lines : Lines} (h : t.Fresh lines) (c : LineChange) :
    (t.notice c).value.1.Fresh lines := by
  cases hc : c.grows with
  | true => rw [notice_grows hc]; exact h
  | false => rw [notice_not_grows hc]; exact fresh_reset t lines

theorem fresh_notice_reset {c : LineChange} (h : c.grows = false) (t : Table) (lines : Lines) :
    (t.notice c).value.1.Fresh lines := by
  rw [notice_not_grows h]
  exact fresh_reset t lines

/-! ## Questions

No question changes the format, whether or not the table is fresh.
-/

theorem format_line? (t : Table) (lines : Lines) (row : Nat) :
    (t.line? lines row).value.2.format = t.format := by
  unfold line?
  split
  · split <;> rfl
  · rfl

theorem format_cell? (t : Table) (lines : Lines) (row column : Nat) :
    (t.cell? lines row column).value.2.format = t.format := by
  unfold cell?
  split
  · exact format_line? t lines row
  · rfl

theorem format_cells (t : Table) (lines : Lines) (row : Nat) (columns : List Nat) :
    (t.cells lines row columns).value.2.format = t.format := by
  induction columns generalizing t with
  | nil => rfl
  | cons column columns ih => exact (ih _).trans (format_cell? t lines row column)

theorem format_row? (t : Table) (lines : Lines) (row : Nat) :
    (t.row? lines row).value.2.format = t.format := by
  unfold row?
  simp only [Logged.value_bind]
  split
  · exact format_line? t lines row
  · exact (format_cells _ lines row _).trans (format_line? t lines row)

theorem format_rows (t : Table) (lines : Lines) (rows : List Nat) :
    (t.rows lines rows).value.2.format = t.format := by
  induction rows generalizing t with
  | nil => rfl
  | cons row rows ih => exact (ih _).trans (format_row? t lines row)

/-- Question `q`, put to the table `t`, gets the answer `a` and leaves a fresh table of the same format. -/
structure Answers (t : Table) (lines : Lines) (q : Logged (α × Table)) (a : α) : Prop where
  value : q.value.1 = a
  format : q.value.2.format = t.format
  fresh : q.value.2.Fresh lines

theorem Answers.sheet {t : Table} {lines : Lines} {q : Logged (α × Table)} {a : α}
    (h : Answers t lines q a) : q.value.2.sheet lines = t.sheet lines := by
  unfold Table.sheet
  rw [h.format]

/-- No row is kept of this line: it is worked out, and kept from now on. -/
theorem fresh_addRow {t : Table} {lines : Lines} {f : Format} {row : Nat} {raw : String}
    (h : t.Fresh lines) (hf : t.format = some f) (hr : lines[row]? = some raw) :
    (t.addRow f row raw).value.2.Fresh lines := by
  intro other line hk
  simp only [addRow, Logged.value_bind, Logged.value_pure, kept?, RowStore.get?_insert] at hk
  split at hk
  · rename_i he
    subst he
    simp only [addRow, Logged.value_bind, Logged.value_pure, Table.sheet, Sheet.line?, hf, hr]
    exact hk
  · exact h other line hk

theorem line?_answers {t : Table} {lines : Lines} (h : t.Fresh lines) (row : Nat) :
    Answers t lines (t.line? lines row) ((t.sheet lines).line? row) := by
  unfold line?
  split
  · rename_i f raw hf hr
    have hline : (t.sheet lines).line? row = some (Line.read f raw) := by
      simp only [Table.sheet, Sheet.line?, hf, hr]
    rw [hline]
    split
    · rename_i line hk
      refine ⟨?_, rfl, h⟩
      rw [← hline]
      exact (h row line hk).symm
    · exact ⟨rfl, rfl, fresh_addRow h hf hr⟩
  · rename_i hno
    refine ⟨?_, rfl, h⟩
    unfold Sheet.line?
    split
    · rename_i f raw hf hr
      exact absurd hr (hno f raw hf)
    · rfl

theorem columns_of_format {t : Table} {f : Format} (h : t.format = some f) : t.columns = f.columns := by
  unfold columns
  rw [h]

theorem columnCount_of_format {t : Table} {f : Format} (h : t.format = some f) :
    t.columnCount = f.columnCount := by
  rw [columnCount, columns_of_format h, Format.columnCount]

theorem Answers.columnCount {t : Table} {lines : Lines} {q : Logged (α × Table)} {a : α}
    (h : Answers t lines q a) : q.value.2.columnCount = t.columnCount := by
  unfold Table.columnCount columns
  rw [h.format]

/-- The sheet's cell is what the table reads off the sheet's row. -/
theorem sheet_cell? (t : Table) (lines : Lines) {row column : Nat} (h : column < t.columnCount) :
    (t.sheet lines).cell? row column =
      ((t.sheet lines).line? row).bind (cellOf lines row column t.columnCount) := by
  unfold Sheet.cell? Sheet.line?
  split
  · rename_i f raw hf hr
    have hc := columnCount_of_format hf
    rw [hc] at h ⊢
    rw [if_pos h, Option.bind_some]
    have hraw : lines[row]? = some raw := hr
    cases Line.read f raw with
    | parsed cells => rfl
    | unparsed => simp only [cellOf, hraw, Option.map_some]
  · rfl

theorem sheet_cell?_out (t : Table) (lines : Lines) {row column : Nat} (h : ¬ column < t.columnCount) :
    (t.sheet lines).cell? row column = none := by
  unfold Sheet.cell?
  split
  · rename_i f raw hf hr
    rw [columnCount_of_format hf] at h
    rw [if_neg h]
  · rfl

theorem cell?_answers {t : Table} {lines : Lines} (h : t.Fresh lines) (row column : Nat) :
    Answers t lines (t.cell? lines row column) ((t.sheet lines).cell? row column) := by
  unfold cell?
  split
  · rename_i hc
    have hl := line?_answers h row
    rw [sheet_cell? t lines hc]
    refine ⟨?_, hl.format, hl.fresh⟩
    simp only [Logged.value_bind, Logged.value_pure]
    rw [hl.value, hl.columnCount]
  · rename_i hc
    rw [sheet_cell?_out t lines hc]
    exact ⟨rfl, rfl, h⟩

theorem datum?_answers {t : Table} {lines : Lines} (h : t.Fresh lines) (row column : Nat) (role : Role) :
    Answers t lines (t.datum? lines row column role) ((t.sheet lines).datum? row column role) := by
  have hc := cell?_answers h row column
  refine ⟨?_, hc.format, hc.fresh⟩
  simp only [datum?, Logged.value_bind, Logged.value_pure]
  rw [hc.value]
  unfold Sheet.datum?
  cases (t.sheet lines).cell? row column with
  | none => rfl
  | some cell => cases role <;> rfl

/-- The cells of some columns, one behind the other; the induction is on the columns still to come. -/
theorem cells_answers {t : Table} {lines : Lines} (h : t.Fresh lines) (row : Nat) (columns : List Nat) :
    Answers t lines (t.cells lines row columns)
      (columns.map fun column => ((t.sheet lines).cell? row column).getD .blank) := by
  induction columns generalizing t with
  | nil => exact ⟨rfl, rfl, h⟩
  | cons column columns ih =>
    have hc := cell?_answers h row column
    have hrest := ih hc.fresh
    rw [hc.sheet] at hrest
    refine ⟨?_, hrest.format.trans hc.format, hrest.fresh⟩
    simp only [cells, Logged.value_bind, Logged.value_pure, List.map_cons]
    rw [hrest.value, hc.value]

theorem sheet_row? (t : Table) (lines : Lines) (row : Nat) :
    (t.sheet lines).row? row = ((t.sheet lines).line? row).map fun _ =>
      (List.range t.columnCount).map fun column => ((t.sheet lines).cell? row column).getD .blank := by
  unfold Sheet.row? Sheet.line?
  split
  · rename_i f raw hf hr
    rw [columnCount_of_format hf]
    rfl
  · rfl

theorem row?_answers {t : Table} {lines : Lines} (h : t.Fresh lines) (row : Nat) :
    Answers t lines (t.row? lines row) ((t.sheet lines).row? row) := by
  have hl := line?_answers h row
  rw [sheet_row?]
  cases hs : (t.sheet lines).line? row with
  | none =>
    have hv : (t.row? lines row).value = (none, (t.line? lines row).value.2) := by
      unfold row?
      simp [hl.value, hs]
    exact ⟨by rw [hv]; rfl, by rw [hv]; exact hl.format, by rw [hv]; exact hl.fresh⟩
  | some line =>
    have hcells := cells_answers hl.fresh row (List.range t.columnCount)
    rw [hl.sheet] at hcells
    have hv : (t.row? lines row).value =
        (some ((t.line? lines row).value.2.cells lines row (List.range t.columnCount)).value.1,
          ((t.line? lines row).value.2.cells lines row (List.range t.columnCount)).value.2) := by
      unfold row?
      simp [hl.value, hs, hl.columnCount]
    refine ⟨?_, ?_, ?_⟩ <;> rw [hv]
    · simp only [hcells.value, Option.map_some]
    · exact hcells.format.trans hl.format
    · exact hcells.fresh

/-- Several rows, one behind the other, without those that there are not. -/
theorem rows_answers {t : Table} {lines : Lines} (h : t.Fresh lines) (rows : List Nat) :
    Answers t lines (t.rows lines rows) (rows.filterMap (t.sheet lines).row?) := by
  induction rows generalizing t with
  | nil => exact ⟨rfl, rfl, h⟩
  | cons row rows ih =>
    have hr := row?_answers h row
    have hrest := ih hr.fresh
    rw [hr.sheet] at hrest
    refine ⟨?_, hrest.format.trans hr.format, hrest.fresh⟩
    simp only [Table.rows, Logged.value_bind, Logged.value_pure]
    rw [hrest.value, hr.value]
    cases hc : (t.sheet lines).row? row with
    | none => rw [List.filterMap_cons_none hc]; rfl
    | some cells => rw [List.filterMap_cons_some hc]; rfl

end Table

end LogTable
