import LogTable.Proofs.Refinement

/-!
# Edits of lines in memory

Lines in memory are extended, replaced or cleared, and each edit gives the notice of it. A notice of growth
promises that the lines before are untouched (`Truthful`). An edit keeps that promise unless it `overwrites`:
it replaces the lines by more others that do not begin with the same lines (`truthful_iff`).

A table that is told of every edit, in order, answers like its sheet whenever nothing is left to tell, as
long as no edit overwrites (`Edited.sound_run`, `Edited.cell?_of_told`). An edit that overwrites leaves the
rows that are kept as they were, so that the table goes on to show lines that are gone
(`shownAfter_of_grows`, and `replaced_line_shown` with two lines in place of one).

Results: `growth_true_unless_overwritten`.
-/
namespace LogTable

inductive Edit
  | extend (more : List String)
  | replace (others : List String)
  | clear

namespace Edit

/-- The lines after an edit, and the notice of it. -/
def perform (lines : Lines) : Edit → Lines × LineChange
  | .extend more => lines.extend more
  | .replace others => lines.replace others
  | .clear => lines.clear

/-- More lines come in place of these, and they do not begin with these. -/
def overwrites (lines : Lines) : Edit → Bool
  | .replace others => decide (lines.size < others.length) && !lines.toList.isPrefixOf others
  | .extend _ | .clear => false

/-- Lines that are told to have been appended have left those before them as they were. -/
def Truthful (old : Lines) (told : Lines × LineChange) : Prop :=
  ∀ start stop, told.2.effect = .append start stop → ∀ row < start, told.1[row]? = old[row]?

theorem new_perform (lines : Lines) (e : Edit) : (e.perform lines).2.new = (e.perform lines).1.size := by
  cases e <;> rfl

theorem old_perform (lines : Lines) (e : Edit) : (e.perform lines).2.old = lines.size := by
  cases e <;> rfl

theorem grows_perform_iff (lines : Lines) (e : Edit) :
    (e.perform lines).2.grows = true ↔ lines.size < (e.perform lines).1.size := by
  unfold LineChange.grows
  rw [decide_eq_true_iff, new_perform, old_perform]

/-- Growth that does not overwrite puts lines behind the others. -/
theorem eq_append_of_grows {lines : Lines} {e : Edit} (hg : (e.perform lines).2.grows = true)
    (ho : e.overwrites lines = false) : ∃ more, (e.perform lines).1 = lines ++ more := by
  rw [grows_perform_iff] at hg
  cases e with
  | extend more => exact ⟨more.toArray, rfl⟩
  | replace others =>
    have hlt : lines.size < others.length := by simpa [perform, Lines.replace, Lines.changeTo] using hg
    have hpre : lines.toList <+: others := by simpa [overwrites, hlt] using ho
    obtain ⟨more, rfl⟩ := hpre
    exact ⟨more.toArray, by simp [perform, Lines.replace, Lines.changeTo]⟩
  | clear => simp [perform, Lines.clear, Lines.changeTo] at hg

/-- Lines that agree with the ones before wherever these are begin with them. -/
theorem isPrefix_of_agree {lines : Lines} {others : List String}
    (h : ∀ row < lines.size, others[row]? = lines[row]?) : lines.toList <+: others := by
  rw [List.prefix_iff_eq_take]
  apply List.ext_getElem?
  intro row
  rw [Array.length_toList, List.getElem?_take, Array.getElem?_toList]
  by_cases hrow : row < lines.size
  · rw [if_pos hrow, h row hrow]
  · rw [if_neg hrow, Array.getElem?_eq_none (by omega)]

/-- An edit that overwrites changes a line that is there. -/
theorem exists_changed {lines : Lines} {e : Edit} (h : e.overwrites lines = true) :
    ∃ (row : Nat) (old new : String),
      lines[row]? = some old ∧ (e.perform lines).1[row]? = some new ∧ old ≠ new := by
  cases e with
  | replace others =>
    simp only [overwrites, Bool.and_eq_true, decide_eq_true_eq, Bool.not_eq_true', ← Bool.not_eq_true,
      List.isPrefixOf_iff_prefix] at h
    obtain ⟨hlt, hno⟩ := h
    have hex : ∃ row, ¬ (row < lines.size → others[row]? = lines[row]?) := by
      by_contra hall
      exact hno (isPrefix_of_agree fun row => by_contra fun hne => hall ⟨row, hne⟩)
    obtain ⟨row, hrow⟩ := hex
    rw [Classical.not_imp] at hrow
    obtain ⟨hlines, hne⟩ := hrow
    have hothers : row < others.length := by omega
    refine ⟨row, lines[row], others[row], Array.getElem?_eq_getElem hlines, ?_, ?_⟩
    · simp [perform, Lines.replace, Lines.changeTo, hothers]
    · intro he
      rw [Array.getElem?_eq_getElem hlines, List.getElem?_eq_getElem hothers, he] at hne
      exact hne rfl
  | extend more => simp [overwrites] at h
  | clear => simp [overwrites] at h

theorem grows_of_overwrites {lines : Lines} {e : Edit} (h : e.overwrites lines = true) :
    (e.perform lines).2.grows = true := by
  rw [grows_perform_iff]
  cases e with
  | replace others =>
    simp only [overwrites, Bool.and_eq_true, decide_eq_true_eq] at h
    simpa [perform, Lines.replace, Lines.changeTo] using h.1
  | extend more => simp [overwrites] at h
  | clear => simp [overwrites] at h

theorem truthful_iff (lines : Lines) (e : Edit) :
    Truthful lines (e.perform lines) ↔ e.overwrites lines = false := by
  constructor
  · intro ht
    rw [← Bool.not_eq_true]
    intro ho
    obtain ⟨row, old, new, hold, hnew, hne⟩ := exists_changed ho
    have hrow : row < lines.size := (Array.getElem?_eq_some_iff.1 hold).1
    have hsame := ht _ _ (LineChange.effect_of_grows (grows_of_overwrites ho)) row (by rw [old_perform]; exact hrow)
    rw [hold, hnew, Option.some.injEq] at hsame
    exact hne hsame.symm
  · intro ho start stop heff row hrow
    have hg : (e.perform lines).2.grows = true := by
      by_contra hng
      rw [LineChange.effect, if_neg hng] at heff
      cases heff
    rw [LineChange.effect_of_grows hg, LineChange.Effect.append.injEq, old_perform] at heff
    obtain ⟨more, hmore⟩ := eq_append_of_grows hg ho
    rw [hmore, Array.getElem?_append_left (heff.1 ▸ hrow)]

end Edit

/-! ## A table that is told -/

/-- A table and its lines, and the notices that the table has not been given yet, oldest first. -/
structure Edited where
  desk : Desk
  untold : List LineChange := []

namespace Edited

inductive Act
  | edit (e : Edit)
  /-- The table is given the oldest notice. -/
  | tell
  | ask (q : Question)
  | setFormat (f : Format)

def Act.overwrites (lines : Lines) : Act → Bool
  | .edit e => e.overwrites lines
  | .tell | .ask _ | .setFormat _ => false

def step (s : Edited) : Act → Edited
  | .edit e => ⟨{ s.desk with lines := (e.perform s.desk.lines).1 }, s.untold ++ [(e.perform s.desk.lines).2]⟩
  | .tell =>
    match s.untold with
    | [] => s
    | c :: rest => ⟨(s.desk.step (.notice c)).2, rest⟩
  | .ask q => { s with desk := (s.desk.step (.ask q)).2 }
  | .setFormat f => { s with desk := (s.desk.step (.setFormat f)).2 }

def run (s : Edited) (acts : List Act) : Edited := acts.foldl step s

/-- No edit of a run overwrites. -/
def preserving (s : Edited) : List Act → Bool
  | [] => true
  | a :: acts => !(a.overwrites s.desk.lines) && (s.step a).preserving acts

/-- The table is fresh once every notice that is left to tell is one of growth: any other makes it forget. -/
def Sound (s : Edited) : Prop :=
  (∀ c ∈ s.untold, c.grows = true) → s.desk.table.Fresh s.desk.lines

theorem sound_edit {s : Edited} (h : s.Sound) {e : Edit} (ho : e.overwrites s.desk.lines = false) :
    (s.step (.edit e)).Sound := by
  intro hall
  have hg : (e.perform s.desk.lines).2.grows = true := hall _ (List.mem_append_right _ List.mem_cons_self)
  have hfresh : s.desk.table.Fresh s.desk.lines := h fun c hc => hall c (List.mem_append_left _ hc)
  obtain ⟨more, hmore⟩ := Edit.eq_append_of_grows hg ho
  show s.desk.table.Fresh (e.perform s.desk.lines).1
  rw [hmore]
  exact hfresh.append more

theorem sound_tell {s : Edited} (h : s.Sound) : (s.step .tell).Sound := by
  obtain ⟨d, untold⟩ := s
  cases untold with
  | nil => exact h
  | cons c rest =>
    intro hall
    cases hc : c.grows with
    | true =>
      refine Table.fresh_notice (h fun c' hc' => ?_) c
      rcases List.mem_cons.1 hc' with rfl | hc'
      · exact hc
      · exact hall c' hc'
    | false => exact Table.fresh_notice_reset hc d.table d.lines

/-- A question keeps rows as they are now, whether or not there is something to tell. -/
theorem fresh_ask {d : Desk} (h : d.table.Fresh d.lines) (q : Question) :
    (d.ask q).2.Fresh d.lines :=
  (Desk.ask_step ⟨rfl, fun _ => h⟩ q).2.fresh rfl

theorem sound_step {s : Edited} (h : s.Sound) {a : Act} (ha : a.overwrites s.desk.lines = false) :
    (s.step a).Sound := by
  cases a with
  | edit e => exact sound_edit h ha
  | tell => exact sound_tell h
  | ask q => exact fun hall => fresh_ask (h hall) q
  | setFormat f => exact fun _ => s.desk.table.fresh_setFormat f s.desk.lines

theorem sound_run {s : Edited} (h : s.Sound) {acts : List Act} (hp : s.preserving acts = true) :
    (s.run acts).Sound := by
  induction acts generalizing s with
  | nil => exact h
  | cons a acts ih =>
    simp only [preserving, Bool.and_eq_true, Bool.not_eq_true'] at hp
    exact ih (sound_step h hp.1) hp.2

theorem sound_start (lines : Lines) : Sound ⟨⟨{}, lines⟩, []⟩ := fun _ => Table.fresh_empty lines

/-- A table that has been told everything answers like its sheet. -/
theorem cell?_of_told {s : Edited} (h : s.Sound) (ht : s.untold = []) (row column : Nat) :
    (s.desk.table.cell? s.desk.lines row column).value.1 =
      (s.desk.table.sheet s.desk.lines).cell? row column := by
  refine (Table.cell?_answers (h fun c hc => ?_) row column).value
  rw [ht] at hc
  cases hc

end Edited

/-! ## Edits that overwrite -/

namespace Table

/-- A row is kept once one of its cells has been asked for. -/
theorem kept?_of_asked {t : Table} {lines : Lines} {f : Format} {row column : Nat} {raw : String}
    (h : t.Fresh lines) (hf : t.format = some f) (hr : lines[row]? = some raw) (hc : column < f.columnCount) :
    (t.cell? lines row column).value.2.kept? row = some (Line.read f raw) := by
  rw [← columnCount_of_format hf] at hc
  simp only [cell?, if_pos hc, Logged.value_bind, Logged.value_pure, line?, hf, hr]
  split
  · rename_i line hk
    have hline := h row line hk
    simp only [sheet, Sheet.line?, hf, hr] at hline
    exact hk.trans hline.symm
  · simp only [addRow, Logged.value_bind, Logged.value_pure, kept?, RowStore.get?_insert, if_pos]

/-- A row that is kept is not worked out again, whatever its line is now. -/
theorem line?_of_kept {t : Table} {lines : Lines} {f : Format} {row : Nat} {raw : String} {line : Line}
    (hf : t.format = some f) (hr : lines[row]? = some raw) (hk : t.kept? row = some line) :
    t.line? lines row = pure (some line, t) := by
  unfold line?
  simp only [hf, hr]
  unfold kept? at hk
  rw [hk]

theorem cell?_of_kept {t : Table} {lines : Lines} {f : Format} {row column : Nat} {raw : String} {line : Line}
    (hf : t.format = some f) (hr : lines[row]? = some raw) (hk : t.kept? row = some line)
    (hc : column < f.columnCount) :
    (t.cell? lines row column).value = (cellOf lines row column f.columnCount line, t) := by
  have hcount := columnCount_of_format hf
  simp only [cell?, hcount, if_pos hc, line?_of_kept hf hr hk, Logged.value_bind, Logged.value_pure,
    Option.bind_some]

end Table

namespace Edit

/-- What a table shows in a cell that it has shown before an edit, once it has been told of the edit. -/
def shownAfter (f : Format) (lines : Lines) (e : Edit) (row column : Nat) : Option Cell :=
  let asked := ((Table.ofFormat f).value.cell? lines row column).value.2
  let told := (asked.notice (e.perform lines).2).value.1
  (told.cell? (e.perform lines).1 row column).value.1

/-- After growth it is the line of before that is shown, whatever stands there now. -/
theorem shownAfter_of_grows {f : Format} {lines : Lines} {e : Edit} {row column : Nat} {old new : String}
    (hg : (e.perform lines).2.grows = true) (hold : lines[row]? = some old)
    (hnew : (e.perform lines).1[row]? = some new) (hc : column < f.columnCount) :
    shownAfter f lines e row column =
      Table.cellOf (e.perform lines).1 row column f.columnCount (Line.read f old) := by
  have hfresh : (Table.ofFormat f).value.Fresh lines := Table.fresh_setFormat {} f lines
  have hformat : (Table.ofFormat f).value.format = some f := Table.format_setFormat {} f
  have hasked := (Table.cell?_answers hfresh row column).format.trans hformat
  have hkept := Table.kept?_of_asked hfresh hformat hold hc
  simp only [shownAfter, Table.notice_grows hg]
  generalize ((Table.ofFormat f).value.cell? lines row column).value.2 = asked at hasked hkept
  have hshown := Table.cell?_of_kept (t := { asked with store := asked.store.cover (e.perform lines).2.new })
    hasked hnew hkept hc
  exact congrArg Prod.fst hshown

/-- **Growth is told of truthfully unless an edit overwrites.** The notice of an edit is true if and only if
the edit does not overwrite. As long as none does, a table that has been told of every edit answers like its
sheet. An edit that does changes a line, and the table goes on to show the cells of the line that is gone. -/
theorem growth_true_unless_overwritten (lines : Lines) (e : Edit) (acts : List Edited.Act) :
    (Truthful lines (e.perform lines) ↔ e.overwrites lines = false) ∧
    (Edited.preserving ⟨⟨{}, lines⟩, []⟩ acts = true →
      let s := Edited.run ⟨⟨{}, lines⟩, []⟩ acts
      s.untold = [] → ∀ row column, (s.desk.table.cell? s.desk.lines row column).value.1 =
        (s.desk.table.sheet s.desk.lines).cell? row column) ∧
    (e.overwrites lines = true →
      ∃ (row : Nat) (old new : String), old ≠ new ∧
        lines[row]? = some old ∧ (e.perform lines).1[row]? = some new ∧
        ∀ (f : Format) (column : Nat), column < f.columnCount →
          shownAfter f lines e row column =
            Table.cellOf (e.perform lines).1 row column f.columnCount (Line.read f old)) := by
  refine ⟨truthful_iff lines e, ?_, ?_⟩
  · intro hp s ht row column
    exact Edited.cell?_of_told (Edited.sound_run (Edited.sound_start lines) hp) ht row column
  · intro ho
    obtain ⟨row, old, new, hold, hnew, hne⟩ := exists_changed ho
    refine ⟨row, old, new, hne, hold, hnew, fun f column hc => ?_⟩
    exact shownAfter_of_grows (grows_of_overwrites ho) hold hnew hc

/-- One line is replaced by two others. The notice is that a line came, yet the first is another one, and a
table that has shown it goes on to do so. -/
theorem replaced_line_shown :
    let lines : Lines := #["a"]
    let e := Edit.replace ["b", "c"]
    (e.perform lines).2.effect = .append 1 2 ∧ (e.perform lines).1[0]? = some "b" ∧
      ¬ Truthful lines (e.perform lines) ∧
      shownAfter Format.plain.value lines e 0 0 = some { text := "a" } ∧
      (Sheet.mk (some Format.plain.value) (e.perform lines).1).cell? 0 0 = some { text := "b" } := by
  intro lines e
  have hfalse : ¬ Truthful lines (e.perform lines) := by
    rw [truthful_iff]
    decide
  exact ⟨rfl, rfl, hfalse, by decide +kernel, by decide +kernel⟩

end Edit

end LogTable
