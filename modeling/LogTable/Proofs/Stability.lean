import Mathlib.Data.List.Induction
import LogTable.Proofs.Edits

/-!
# How long a row that is kept stays as it is

A row is kept from the question that first works it out until the table forgets its rows. In between there may
be questions, growth may be told of, and whoever owns the lines may do anything to them. The row that is kept
stays the same all the while (`kept?_run`), since questions only ever add rows (`Table.Grown`).

An answer is not made of that row alone. Rows exist only as far as there are lines, and a row that is not
parsed shows its line. So a row answers as it did at first if it is there and its answer can be read off what
is kept, or off a line that is as it was (`Table.cell?_of_same`, `Table.row?_of_same`); without a line it does
not answer at all (`Table.cell?_of_no_line`, `Table.row?_of_no_line`).

Results: `kept_row_stable`, and `kept_row_follows_lines` for what may become of a row otherwise.
-/
namespace LogTable

namespace Table

/-! ## Questions add rows -/

/-- A table after questions: the rows that were kept still are, and others are those of their lines. -/
structure Grown (lines : Lines) (t t' : Table) : Prop where
  format : t'.format = t.format
  retains : ∀ row line, t.kept? row = some line → t'.kept? row = some line
  introduced : ∀ row line, t'.kept? row = some line → t.kept? row = none →
    (t.sheet lines).line? row = some line

theorem Grown.refl (lines : Lines) (t : Table) : Grown lines t t where
  format := rfl
  retains := fun _ _ hk => hk
  introduced := fun _ _ hk hno => by rw [hno] at hk; cases hk

theorem Grown.trans {lines : Lines} {a b c : Table} (h₁ : Grown lines a b) (h₂ : Grown lines b c) :
    Grown lines a c where
  format := h₂.format.trans h₁.format
  retains := fun row line hk => h₂.retains row line (h₁.retains row line hk)
  introduced := fun row line hk hno => by
    cases hb : b.kept? row with
    | none =>
      have hline := h₂.introduced row line hk hb
      unfold sheet at hline ⊢
      rwa [h₁.format] at hline
    | some other =>
      have he : some other = some line := (h₂.retains row other hb).symm.trans hk
      cases he
      exact h₁.introduced row line hb hno

theorem grown_addRow {t : Table} {lines : Lines} {f : Format} {row : Nat} {raw : String}
    (hf : t.format = some f) (hr : lines[row]? = some raw) (hno : t.kept? row = none) :
    Grown lines t (t.addRow f row raw).value.2 where
  format := rfl
  retains := fun other line hk => by
    simp only [addRow, Logged.value_bind, Logged.value_pure, kept?, RowStore.get?_insert]
    rw [if_neg]
    · exact hk
    · rintro rfl
      rw [hno] at hk
      cases hk
  introduced := fun other line hk hother => by
    simp only [addRow, Logged.value_bind, Logged.value_pure, kept?, RowStore.get?_insert] at hk
    split at hk
    · rename_i he
      subst he
      simp only [sheet, Sheet.line?, hf, hr]
      exact hk
    · unfold kept? at hother
      rw [hother] at hk
      cases hk

theorem grown_line? (t : Table) (lines : Lines) (row : Nat) : Grown lines t (t.line? lines row).value.2 := by
  unfold line?
  split
  · rename_i f raw hf hr
    split
    · exact .refl lines t
    · rename_i hno
      exact grown_addRow hf hr hno
  · exact .refl lines t

theorem grown_cell? (t : Table) (lines : Lines) (row column : Nat) :
    Grown lines t (t.cell? lines row column).value.2 := by
  unfold cell?
  split
  · exact grown_line? t lines row
  · exact .refl lines t

theorem grown_cells (t : Table) (lines : Lines) (row : Nat) (columns : List Nat) :
    Grown lines t (t.cells lines row columns).value.2 := by
  induction columns generalizing t with
  | nil => exact .refl lines t
  | cons column columns ih => exact (grown_cell? t lines row column).trans (ih _)

theorem grown_row? (t : Table) (lines : Lines) (row : Nat) : Grown lines t (t.row? lines row).value.2 := by
  have hline := grown_line? t lines row
  unfold row?
  simp only [Logged.value_bind]
  split
  · exact hline
  · exact hline.trans (grown_cells _ lines row _)

/-! ## What a row that is kept answers -/

/-- What a row shows in a column, if there is such a column. -/
def shown (lines : Lines) (row column count : Nat) (line : Line) : Option Cell :=
  if column < count then cellOf lines row column count line else none

/-- What is shown is read off the row that is kept, and off its line only if that is not parsed. -/
theorem shown_of_same {lines lines' : Lines} {row : Nat} {line : Line}
    (h : line.isParsed = true ∨ lines'[row]? = lines[row]?) (column count : Nat) :
    shown lines' row column count line = shown lines row column count line := by
  unfold shown
  split
  · cases line with
    | parsed cells => rfl
    | unparsed =>
      rcases h with h | h
      · simp [Line.isParsed] at h
      · simp only [cellOf, h]
  · rfl

section Kept

variable {t : Table} {lines : Lines} {f : Format} {row : Nat} {raw : String} {line : Line}

theorem cell?_eq_shown (hf : t.format = some f) (hr : lines[row]? = some raw) (hk : t.kept? row = some line)
    (column : Nat) : (t.cell? lines row column).value = (shown lines row column f.columnCount line, t) := by
  unfold shown
  split
  · rename_i hc
    exact cell?_of_kept hf hr hk hc
  · rename_i hc
    rw [← columnCount_of_format hf] at hc
    simp only [cell?, if_neg hc, Logged.value_pure]

theorem cells_eq_shown (hf : t.format = some f) (hr : lines[row]? = some raw) (hk : t.kept? row = some line)
    (columns : List Nat) : (t.cells lines row columns).value =
      (columns.map fun column => (shown lines row column f.columnCount line).getD .blank, t) := by
  induction columns with
  | nil => rfl
  | cons column columns ih =>
    simp only [cells, Logged.value_bind, Logged.value_pure, cell?_eq_shown hf hr hk, ih, List.map_cons]

theorem row?_eq_shown (hf : t.format = some f) (hr : lines[row]? = some raw) (hk : t.kept? row = some line) :
    (t.row? lines row).value.1 = some ((List.range f.columnCount).map fun column =>
      (shown lines row column f.columnCount line).getD .blank) := by
  simp only [row?, line?_of_kept hf hr hk, Logged.value_bind, Logged.value_pure, Option.isNone_some,
    Bool.false_eq_true, if_false, columnCount_of_format hf, cells_eq_shown hf hr hk]

/-- Two tables of one format that keep the same row show the same in it. -/
theorem cell?_of_same {t' : Table} {lines' : Lines} {raw' : String} (hf : t.format = some f)
    (hr : lines[row]? = some raw) (hk : t.kept? row = some line) (hf' : t'.format = some f)
    (hr' : lines'[row]? = some raw') (hk' : t'.kept? row = some line)
    (h : line.isParsed = true ∨ lines'[row]? = lines[row]?) (column : Nat) :
    (t'.cell? lines' row column).value.1 = (t.cell? lines row column).value.1 := by
  rw [cell?_eq_shown hf hr hk, cell?_eq_shown hf' hr' hk']
  exact shown_of_same h column f.columnCount

theorem row?_of_same {t' : Table} {lines' : Lines} {raw' : String} (hf : t.format = some f)
    (hr : lines[row]? = some raw) (hk : t.kept? row = some line) (hf' : t'.format = some f)
    (hr' : lines'[row]? = some raw') (hk' : t'.kept? row = some line)
    (h : line.isParsed = true ∨ lines'[row]? = lines[row]?) :
    (t'.row? lines' row).value.1 = (t.row? lines row).value.1 := by
  rw [row?_eq_shown hf hr hk, row?_eq_shown hf' hr' hk']
  simp only [shown_of_same h]

end Kept

theorem line?_of_no_line {t : Table} {lines : Lines} {row : Nat} (h : lines[row]? = none) :
    t.line? lines row = pure (none, t) := by
  unfold line?
  rw [h]
  split
  · rename_i hr
    cases hr
  · rfl

theorem cell?_of_no_line {t : Table} {lines : Lines} {row : Nat} (h : lines[row]? = none) (column : Nat) :
    (t.cell? lines row column).value.1 = none := by
  unfold cell?
  split
  · simp only [line?_of_no_line h, Logged.value_bind, Logged.value_pure, Option.bind_none]
  · rfl

theorem row?_of_no_line {t : Table} {lines : Lines} {row : Nat} (h : lines[row]? = none) :
    (t.row? lines row).value.1 = none := by
  simp only [row?, line?_of_no_line h, Logged.value_bind, Logged.value_pure, Option.isNone_none, if_true]

end Table

/-! ## Until the table forgets -/

/-- The table forgets its rows. -/
def Op.forgets : Op → Bool
  | .setFormat _ | .reset => true
  | .notice c => !c.grows
  | .append _ | .rewrite _ | .ask _ => false

namespace Desk

def run (d : Desk) (ops : List Op) : Desk := ops.foldl (fun d op => (d.step op).2) d

def cell? (d : Desk) (row column : Nat) : Option Cell := (d.table.cell? d.lines row column).value.1

def row? (d : Desk) (row : Nat) : Option (List Cell) := (d.table.row? d.lines row).value.1

theorem run_append (d : Desk) (first rest : List Op) : d.run (first ++ rest) = (d.run first).run rest :=
  List.foldl_append

theorem grown_ask (d : Desk) (q : Question) : Table.Grown d.lines d.table (d.ask q).2 := by
  cases q with
  | cell row column => exact Table.grown_cell? d.table d.lines row column
  | datum row column role => exact Table.grown_cell? d.table d.lines row column
  | row row => exact Table.grown_row? d.table d.lines row
  | kept row => exact .refl d.lines d.table

theorem kept?_of_forgets {op : Op} (h : op.forgets = true) (d : Desk) (row : Nat) :
    (d.step op).2.table.kept? row = none := by
  cases op with
  | setFormat f => exact Table.kept?_reset { d.table with format := some f } row
  | reset => exact Table.kept?_reset d.table row
  | notice c =>
    have hc : c.grows = false := by simpa [Op.forgets] using h
    simp only [step, Table.notice_not_grows hc]
    exact Table.kept?_reset d.table row
  | append more => simp [Op.forgets] at h
  | rewrite others => simp [Op.forgets] at h
  | ask q => simp [Op.forgets] at h

/-- Growth that is told of and changes of the lines touch no row that is kept. -/
theorem kept?_of_no_question {op : Op} (h : op.forgets = false) (hop : ∀ q, op ≠ .ask q) (d : Desk) (row : Nat) :
    (d.step op).2.table.kept? row = d.table.kept? row := by
  cases op with
  | setFormat f | reset => cases h
  | notice c =>
    have hc : c.grows = true := by simpa [Op.forgets] using h
    simp only [step, Table.notice_grows hc]
    rfl
  | append more | rewrite others => rfl
  | ask q => exact absurd rfl (hop q)

theorem format_step {op : Op} (h : op.forgets = false) (d : Desk) :
    (d.step op).2.table.format = d.table.format := by
  cases op with
  | setFormat f | reset => cases h
  | notice c => exact d.table.format_notice c
  | append more | rewrite others => rfl
  | ask q => exact (d.grown_ask q).format

/-- Whatever does not forget leaves every row that is kept. -/
theorem kept?_step {d : Desk} {op : Op} (h : op.forgets = false) {row : Nat} {line : Line}
    (hk : d.table.kept? row = some line) : (d.step op).2.table.kept? row = some line := by
  by_cases hop : ∃ q, op = .ask q
  · obtain ⟨q, rfl⟩ := hop
    exact (d.grown_ask q).retains row line hk
  · rw [kept?_of_no_question h fun q he => hop ⟨q, he⟩]
    exact hk

theorem kept?_run {d : Desk} {ops : List Op} (h : ∀ op ∈ ops, op.forgets = false) :
    (d.run ops).table.format = d.table.format ∧
      ∀ row line, d.table.kept? row = some line → (d.run ops).table.kept? row = some line := by
  unfold run
  induction ops generalizing d with
  | nil => exact ⟨rfl, fun _ _ hk => hk⟩
  | cons op ops ih =>
    have hop := h op List.mem_cons_self
    obtain ⟨hformats, hkeeps⟩ := ih (d := (d.step op).2) fun other ho => h other (List.mem_cons_of_mem op ho)
    exact ⟨hformats.trans (format_step hop d), fun row line hk => hkeeps row line (kept?_step hop hk)⟩

/-- A row that has come to be kept was asked for, and is that of its line. -/
theorem asked_of_kept {d : Desk} {op : Op} {row : Nat} {line : Line} (hno : d.table.kept? row = none)
    (hk : (d.step op).2.table.kept? row = some line) :
    ∃ q, op = .ask q ∧ (d.table.sheet d.lines).line? row = some line := by
  cases hforgets : op.forgets with
  | true =>
    rw [kept?_of_forgets hforgets] at hk
    cases hk
  | false =>
    by_cases hop : ∃ q, op = .ask q
    · obtain ⟨q, rfl⟩ := hop
      exact ⟨q, rfl, (d.grown_ask q).introduced row line hk hno⟩
    · rw [kept?_of_no_question hforgets fun q he => hop ⟨q, he⟩, hno] at hk
      cases hk

/-- A row that is kept has been since some question. The induction is on the run from its end: the question is
the last thing done before which the row was not kept. -/
theorem exists_first_kept {d : Desk} {ops : List Op} {row : Nat} {line : Line}
    (hno : d.table.kept? row = none) (hk : (d.run ops).table.kept? row = some line) :
    ∃ before q between, ops = before ++ .ask q :: between ∧ (d.run before).table.kept? row = none ∧
      (d.run (before ++ [.ask q])).table.kept? row = some line ∧ ∀ op ∈ between, op.forgets = false := by
  induction ops using List.reverseRecOn generalizing line with
  | nil =>
    have hsame : d.table.kept? row = some line := hk
    rw [hno] at hsame
    cases hsame
  | append_singleton ops op ih =>
    have hstep : (((d.run ops).step op).2).table.kept? row = some line := by
      rw [run_append] at hk
      exact hk
    cases hbefore : (d.run ops).table.kept? row with
    | none =>
      obtain ⟨q, rfl, -⟩ := asked_of_kept hbefore hstep
      exact ⟨ops, q, [], rfl, hbefore, hk, by simp⟩
    | some other =>
      have hop : op.forgets = false := by
        rw [← Bool.not_eq_true]
        intro hop
        rw [kept?_of_forgets hop] at hstep
        cases hstep
      have he : some other = some line := (kept?_step hop hbefore).symm.trans hstep
      cases he
      obtain ⟨before, q, between, rfl, hnone, hfirst, hbetween⟩ := ih hbefore
      refine ⟨before, q, between ++ [op], by simp, hnone, hfirst, fun other ho => ?_⟩
      rcases List.mem_append.1 ho with ho | ho
      · exact hbetween other ho
      · rw [List.mem_singleton.1 ho]
        exact hop

/-- **A row that is kept is stable.** Take any row that is kept after any run, and whatever may follow that does
not make the table forget. The row has been kept since some question, and still is. As long as it has a line it
answers as it did after that question: always if it is parsed, and otherwise as long as that line is as it was.
While there are not so many lines it does not answer. -/
theorem kept_row_stable (lines : Lines) (ops later : List Op) (row : Nat) (line : Line)
    (hk : (run ⟨{}, lines⟩ ops).table.kept? row = some line) (hlater : ∀ op ∈ later, op.forgets = false) :
    ∃ before q between, ops = before ++ .ask q :: between ∧
      (run ⟨{}, lines⟩ before).table.kept? row = none ∧ (∀ op ∈ between, op.forgets = false) ∧
      let first := run ⟨{}, lines⟩ (before ++ [.ask q])
      let now := run ⟨{}, lines⟩ (ops ++ later)
      first.table.kept? row = some line ∧ now.table.kept? row = some line ∧
      (row < now.lines.size → line.isParsed = true ∨ now.lines[row]? = first.lines[row]? →
        (∀ column, now.cell? row column = first.cell? row column) ∧ now.row? row = first.row? row) ∧
      (now.lines.size ≤ row → (∀ column, now.cell? row column = none) ∧ now.row? row = none) := by
  have hno : (⟨{}, lines⟩ : Desk).table.kept? row = none := by simp [Table.kept?, RowStore.get?]
  obtain ⟨before, q, between, rfl, hnone, hfirst, hbetween⟩ := exists_first_kept hno hk
  refine ⟨before, q, between, rfl, hnone, hbetween, ?_⟩
  intro first now
  have hsince : ∀ op ∈ between ++ later, op.forgets = false := by
    intro op ho
    rcases List.mem_append.1 ho with ho | ho
    · exact hbetween op ho
    · exact hlater op ho
  have hnow : now = first.run (between ++ later) := by
    rw [← run_append]
    simp [now]
  obtain ⟨hformat, hkeeps⟩ := kept?_run (d := first) hsince
  rw [← hnow] at hformat hkeeps
  have hkept : now.table.kept? row = some line := hkeeps row line hfirst
  refine ⟨hfirst, hkept, fun hrow hsame => ?_, fun hrow => ?_⟩
  · -- the question found a format and a line for the row
    have hask : first = ((run ⟨{}, lines⟩ before).step (.ask q)).2 := run_append _ before [.ask q]
    have hasked : ((run ⟨{}, lines⟩ before).step (.ask q)).2.table.kept? row = some line := by
      rw [← hask]
      exact hfirst
    obtain ⟨-, -, hline⟩ := asked_of_kept hnone hasked
    have hf : ∃ f, first.table.format = some f := by
      have hq : (Op.ask q).forgets = false := rfl
      rw [hask, format_step hq]
      cases he : (run ⟨{}, lines⟩ before).table.format with
      | none => simp [Table.sheet, Sheet.line?, he] at hline
      | some f => exact ⟨f, rfl⟩
    obtain ⟨f, hf⟩ := hf
    have hr : ∃ raw, first.lines[row]? = some raw := by
      rw [hask]
      cases he : (run ⟨{}, lines⟩ before).lines[row]? with
      | none => simp [Table.sheet, Sheet.line?, he] at hline
      | some raw => exact ⟨raw, he⟩
    obtain ⟨raw, hr⟩ := hr
    have hr' := Array.getElem?_eq_getElem hrow
    have hf' := hformat.trans hf
    exact ⟨Table.cell?_of_same hf hr hfirst hf' hr' hkept hsame,
      Table.row?_of_same hf hr hfirst hf' hr' hkept hsame⟩
  · have hr := Array.getElem?_eq_none hrow
    exact ⟨Table.cell?_of_no_line hr, Table.row?_of_no_line hr⟩

/-- A row of plain lines, read once, while other lines come in its place and growth is told of. -/
theorem kept_row_stable_rewritten :
    let ops : List Op := [.setFormat Format.plain.value, .ask (.row 0), .append #["c"]]
    let later : List Op := [.rewrite #["d", "e", "f"], .notice ⟨3, 2⟩, .ask (.cell 0 0)]
    (run ⟨{}, #["a", "b"]⟩ ops).table.kept? 0 = some (.parsed [{ text := "a" }]) ∧
      (∀ op ∈ later, op.forgets = false) ∧
      ∃ before q between, ops = before ++ .ask q :: between ∧
        (run ⟨{}, #["a", "b"]⟩ before).table.kept? 0 = none ∧ (∀ op ∈ between, op.forgets = false) ∧
        let first := run ⟨{}, #["a", "b"]⟩ (before ++ [.ask q])
        let now := run ⟨{}, #["a", "b"]⟩ (ops ++ later)
        first.table.kept? 0 = some (.parsed [{ text := "a" }]) ∧
        now.table.kept? 0 = some (.parsed [{ text := "a" }]) ∧
        (0 < now.lines.size → (Line.parsed [{ text := "a" }]).isParsed = true ∨ now.lines[0]? = first.lines[0]? →
          (∀ column, now.cell? 0 column = first.cell? 0 column) ∧ now.row? 0 = first.row? 0) ∧
        (now.lines.size ≤ 0 → (∀ column, now.cell? 0 column = none) ∧ now.row? 0 = none) := by
  intro ops later
  have hk : (run ⟨{}, #["a", "b"]⟩ ops).table.kept? 0 = some (.parsed [{ text := "a" }]) := by decide +kernel
  have hlater : ∀ op ∈ later, op.forgets = false := by simp [later, Op.forgets, LineChange.grows]
  exact ⟨hk, hlater, kept_row_stable #["a", "b"] ops later 0 _ hk hlater⟩

/-- A row that the format does not match shows its line as it is now, and any row is gone with its line. -/
theorem kept_row_follows_lines :
    let asked := run ⟨{}, #["a"]⟩ [.setFormat (Format.new "(?<x>b)(?<y>c)").value, .ask (.row 0)]
    let changed := asked.run [.rewrite #["z"]]
    let emptied := asked.run [.rewrite #[]]
    asked.table.kept? 0 = some .unparsed ∧ asked.cell? 0 0 = some { text := "a" } ∧
      changed.table.kept? 0 = some .unparsed ∧ changed.cell? 0 0 = some { text := "z" } ∧
      emptied.table.kept? 0 = some .unparsed ∧ emptied.cell? 0 0 = none ∧ emptied.row? 0 = none := by
  decide +kernel

end Desk

end LogTable
