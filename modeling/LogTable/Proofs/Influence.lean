import LogTable.Proofs.Coloring
import LogTable.Proofs.Loading

/-!
# Highlights without influence

A highlight that cannot hold on any cell of a line may be taken out, two neighbours that never color the same cell may
change places, and behind a highlight that colors a cell another one may be put in without a change to this cell.
Each of these moves the highlights behind it to other places. The walk over the highlights does not depend on places:
it stops at the first that applies (`firstColors_eraseIdx`, `firstColors_swap`, `firstColors_insertIdx`, by induction
on the highlights), and a line is painted by this walk, column by column (`Line.read_congr`, `Line.getElem?_read`).

That a malformed definition never holds, and that a column behind the last has no cell, is so for every format that can
be made, those of files among them (`FormatFile.made_toFormat`): its conditions are those of their definitions and it
has a group for each column (`Format.Made.sound`).

Results: `inert_highlights_without_influence`.
-/
namespace LogTable

/-! ## Formats that can be made -/

/-- Highlights that can be made: by their column and definition, and from others by giving them another scope, other
colors or another definition. -/
inductive Highlight.Made : Highlight → Prop
  | new (column : Nat) (definition : String) : Made (new column definition).value
  | styled {h : Highlight} (hh : Made h) (scope : Scope) (fg bg : Option Color) : Made { h with scope, fg, bg }
  | redefined {h : Highlight} (hh : Made h) (definition : String) : Made (h.setDefinition definition).value

/-- Formats that can be made: from a pattern, and from others by naming them and by adding, removing and replacing
highlights. -/
inductive Format.Made : Format → Prop
  | new (pattern : String) : Made (new pattern).value
  | named {f : Format} (hf : Made f) (name : String) : Made (f.named name)
  | added {f : Format} {h : Highlight} (hf : Made f) (hh : h.Made) : Made (f.add h).value
  | removed {f : Format} (hf : Made f) (id : Nat) : Made (f.remove id)
  | replaced {f : Format} {h : Highlight} (hf : Made f) (hh : h.Made) (id : Nat) :
    Made { f with highlights := f.highlights.set id h }

theorem FormatFile.made_of_addEntry {f g : Format} (hf : f.Made) {e : RuleEntry}
    (h : (addEntry f e).value = .ok g) : g.Made := by
  unfold addEntry at h
  cases hcolumn : resolveColumn f e with
  | error fault =>
    rw [hcolumn] at h
    cases h
  | ok column =>
    rw [hcolumn] at h
    cases h
    exact .added hf (.styled (.new column e.condition) e.scope e.fg e.bg)

theorem FormatFile.made_of_addEntries {f g : Format} (hf : f.Made) {entries : List RuleEntry}
    (h : (addEntries f entries).value = .ok g) : g.Made := by
  induction entries generalizing f with
  | nil =>
    cases h
    exact hf
  | cons e rest ih =>
    rw [addEntries_cons] at h
    cases hadd : (addEntry f e).value with
    | error fault =>
      rw [hadd] at h
      cases h
    | ok mid =>
      rw [hadd] at h
      exact ih (made_of_addEntry hf hadd) h

/-- Every format that a file describes can be made. -/
theorem FormatFile.made_toFormat {file : FormatFile} {f : Format} (h : file.toFormat.value = .ok f) : f.Made := by
  rw [value_toFormat] at h
  exact made_of_addEntries (.named (.new file.pattern) _) h

/-- The condition is the one that the definition stands for. -/
def Highlight.Synced (h : Highlight) : Prop := h.condition = (Condition.compile h.definition).value

theorem Highlight.Made.synced {h : Highlight} (hh : h.Made) : h.Synced := by
  induction hh with
  | new column definition => rfl
  | styled _ scope fg bg ih => exact ih
  | @redefined h _ definition ih =>
    unfold setDefinition
    split
    · exact ih
    · rfl

/-- Every condition is the one that its definition stands for, and every column has a group. -/
structure Format.Sound (f : Format) : Prop where
  synced : ∀ h ∈ f.highlights, h.Synced
  groups : f.groups.length = f.columnCount

namespace Format

theorem sound_new (pattern : String) : (new pattern).value.Sound := by
  refine ⟨fun h hmem => ?_, ?_⟩
  · rw [(fields_new pattern).2.2] at hmem
    cases hmem
  · cases hc : Regex.compile pattern with
    | ok r => exact (aligned_new hc).length_groups
    | error fault =>
      rw [new_of_error hc]
      rfl

theorem Made.sound {f : Format} (hf : f.Made) : f.Sound := by
  induction hf with
  | new pattern => exact sound_new pattern
  | named _ name ih => exact ⟨ih.synced, ih.groups⟩
  | added _ hh ih =>
    refine ⟨fun x hx => ?_, ih.groups⟩
    rcases List.mem_append.1 hx with hx | hx
    · exact ih.synced x hx
    · rw [List.mem_singleton.1 hx]
      exact hh.synced
  | removed _ id ih => exact ⟨fun x hx => ih.synced x (List.mem_of_mem_eraseIdx hx), ih.groups⟩
  | replaced _ hh id ih =>
    refine ⟨fun x hx => ?_, ih.groups⟩
    rcases List.mem_or_eq_of_mem_set hx with hx | rfl
    · exact ih.synced x hx
    · exact hh.synced

end Format

/-! ## The walk over the highlights -/

section
variable {p : Highlight → Bool}

/-- What does not apply is passed over. -/
theorem firstColors_eraseIdx {highlights : List Highlight} {id : Nat} {h : Highlight}
    (hat : highlights[id]? = some h) (hno : p h = false) :
    firstColors p (highlights.eraseIdx id) = firstColors p highlights := by
  induction highlights generalizing id with
  | nil => rfl
  | cons x rest ih =>
    cases id with
    | zero =>
      rw [List.getElem?_cons_zero] at hat
      cases hat
      simp [firstColors_cons, hno]
    | succ id =>
      rw [List.getElem?_cons_succ] at hat
      rw [List.eraseIdx_cons_succ, firstColors_cons, firstColors_cons, ih hat]

/-- Of two that do not both apply it makes no difference which comes first. -/
theorem firstColors_swap {a b : Highlight} (hnot : ¬ (p a = true ∧ p b = true)) (before after : List Highlight) :
    firstColors p (before ++ a :: b :: after) = firstColors p (before ++ b :: a :: after) := by
  induction before with
  | nil =>
    simp only [List.nil_append, firstColors_cons]
    cases ha : p a <;> cases hb : p b <;> simp_all
  | cons x before ih => simp only [List.cons_append, firstColors_cons, ih]

/-- What comes behind one that applies is not reached. -/
theorem firstColors_insertIdx {highlights : List Highlight} {j position : Nat} {h : Highlight}
    (hat : highlights[j]? = some h) (hyes : p h = true) (hlt : j < position) (new : Highlight) :
    firstColors p (highlights.insertIdx position new) = firstColors p highlights := by
  induction highlights generalizing j position with
  | nil => simp at hat
  | cons x rest ih =>
    obtain ⟨position, rfl⟩ := Nat.exists_eq_succ_of_ne_zero (Nat.ne_of_gt (Nat.zero_lt_of_lt hlt))
    rw [List.insertIdx_succ_cons, firstColors_cons, firstColors_cons]
    cases j with
    | zero =>
      rw [List.getElem?_cons_zero] at hat
      cases hat
      simp [hyes]
    | succ j =>
      rw [List.getElem?_cons_succ] at hat
      rw [ih hat (Nat.lt_of_succ_lt_succ hlt)]

end

/-! ## Highlights that cannot hold -/

theorem Condition.compile_of_error {definition : String} {reason : ConditionFault}
    (h : parse definition = .error reason) : (compile definition).value = .never := by
  unfold compile
  rw [h]
  rfl

namespace Highlight

theorem not_applies_of_malformed {h : Highlight} (hs : h.Synced) {reason : ConditionFault}
    (hreason : Condition.parse h.definition = .error reason) (cells : List Cell) (column : Nat) :
    h.applies cells column = false := by
  have hnever : h.condition = .never := hs.trans (Condition.compile_of_error hreason)
  rw [← Bool.not_eq_true, applies_iff]
  rintro ⟨-, cell, -, hholds⟩
  rw [hnever] at hholds
  cases hholds

theorem not_applies_of_out_of_range {h : Highlight} {cells : List Cell} (hout : cells.length ≤ h.column)
    (column : Nat) : h.applies cells column = false := by
  rw [← Bool.not_eq_true, applies_iff]
  rintro ⟨-, cell, hcell, -⟩
  rw [List.getElem?_eq_none hout] at hcell
  cases hcell

/-- A highlight for cells colors no cell but that of its column. -/
theorem Marks.column_eq {h : Highlight} {cells : List Cell} {column : Nat} (hm : h.Marks cells column)
    (hscope : h.scope = .cell) : h.column = column := by
  rcases hm.1 with hrow | hcolumn
  · rw [hscope] at hrow
    cases hrow
  · exact hcolumn

end Highlight

/-! ## Lines -/

namespace Line

/-- The highlights have no part in how a line is split. -/
theorem parse_withHighlights (f : Format) (highlights : List Highlight) (raw : String) :
    parse { f with highlights } raw = parse f raw := rfl

theorem length_of_parsed {f : Format} (hf : f.Sound) {raw : String} {cells : List Cell}
    (h : parse f raw = .parsed cells) : cells.length = f.columnCount := by
  unfold parse at h
  split at h
  · cases h
  · split at h
    · cases h
    · split at h
      · cases h
      · cases h
        rw [cellsOf, List.length_map, hf.groups]

/-- A cell of a line that parsed. -/
theorem getElem?_read {f : Format} {raw : String} {cells : List Cell} (h : parse f raw = .parsed cells) (i : Nat) :
    (read f raw).cells[i]? = cells[i]?.map fun cell =>
      { cell with fg := (colorsAt f cells i).fg, bg := (colorsAt f cells i).bg } := by
  rw [read, h, paint_parsed, Line.cells, List.getElem?_mapIdx]

/-- Other highlights paint a line alike if the walk over them gives each cell the same colors. -/
theorem read_congr {f : Format} {highlights : List Highlight} {raw : String}
    (h : ∀ cells, parse f raw = .parsed cells → ∀ i,
      firstColors (·.applies cells i) highlights = firstColors (·.applies cells i) f.highlights) :
    read { f with highlights } raw = read f raw := by
  unfold read
  rw [parse_withHighlights]
  cases hp : parse f raw with
  | unparsed => rfl
  | parsed cells =>
    rw [paint_parsed, paint_parsed]
    have hcolors : ∀ i, colorsAt { f with highlights } cells i = colorsAt f cells i := h cells hp
    simp only [hcolors]

end Line

/-- **Highlights without influence.** Taking out a highlight whose definition is malformed, or whose column the format
does not have, changes no line. Neither does it to let two neighbours that are for the cells of different columns
change places. Whatever is put in behind a highlight, the cells that this one marks stay as they are. -/
theorem inert_highlights_without_influence {f : Format} (hf : f.Made) (raw : String) :
    (∀ id h, f.highlights[id]? = some h →
      (∃ reason, Condition.parse h.definition = .error reason) ∨ f.columnCount ≤ h.column →
      Line.read (f.remove id) raw = Line.read f raw) ∧
    (∀ before a b after, f.highlights = before ++ a :: b :: after → a.scope = .cell → b.scope = .cell →
      a.column ≠ b.column →
      Line.read { f with highlights := before ++ b :: a :: after } raw = Line.read f raw) ∧
    ∀ cells j h column position new, Line.parse f raw = .parsed cells → f.highlights[j]? = some h →
      h.Marks cells column → j < position →
      (Line.read { f with highlights := f.highlights.insertIdx position new } raw).cells[column]? =
        (Line.read f raw).cells[column]? := by
  have hs := hf.sound
  refine ⟨fun id h hat hinert => ?_, fun before a b after hall ha hb hne => ?_,
    fun cells j h column position new hcells hat hmarks hlt => ?_⟩
  · refine Line.read_congr fun cells hcells i => firstColors_eraseIdx hat ?_
    rcases hinert with ⟨reason, hreason⟩ | hout
    · exact Highlight.not_applies_of_malformed (hs.synced h (List.mem_of_getElem? hat)) hreason cells i
    · exact Highlight.not_applies_of_out_of_range (Line.length_of_parsed hs hcells ▸ hout) i
  · refine Line.read_congr fun cells _ i => ?_
    rw [hall]
    refine firstColors_swap (fun hboth => hne ?_) before after
    have hbcolumn := ((b.applies_iff cells i).1 hboth.1).column_eq hb
    have hacolumn := ((a.applies_iff cells i).1 hboth.2).column_eq ha
    rw [hacolumn, hbcolumn]
  · have hcolors : colorsAt { f with highlights := f.highlights.insertIdx position new } cells column =
        colorsAt f cells column :=
      firstColors_insertIdx hat ((h.applies_iff cells column).2 hmarks) hlt new
    have hcells' : Line.parse { f with highlights := f.highlights.insertIdx position new } raw = .parsed cells := hcells
    rw [Line.getElem?_read hcells', Line.getElem?_read hcells, hcolors]

/-- A highlight with a foreground. -/
def mark (column : Nat) (scope : Scope) (definition : String) (fg : Color) : Highlight :=
  { (Highlight.new column definition).value with scope, fg := some fg }

theorem made_mark (column : Nat) (scope : Scope) (definition : String) (fg : Color) :
    (mark column scope definition fg).Made :=
  .styled (.new column definition) scope (some fg) none

/-- One highlight that is malformed, one for a column that is not there, one for each column and one for whole rows. -/
def marks : List Highlight :=
  [mark 0 .cell "b" ⟨1, 0, 0⟩, mark 2 .row "!= x" ⟨2, 0, 0⟩, mark 0 .cell "== b" ⟨3, 0, 0⟩,
    mark 1 .cell "contains c" ⟨4, 0, 0⟩, mark 0 .row "!= x" ⟨5, 0, 0⟩]

def marked : Format :=
  marks.foldl (fun f h => (f.add h).value) (Format.new "(?<time>a)(?<level>b)(?<text>c)").value

theorem made_marked : marked.Made :=
  .added (.added (.added (.added (.added (.new _) (made_mark ..)) (made_mark ..)) (made_mark ..)) (made_mark ..))
    (made_mark ..)

theorem highlights_marked : marked.highlights = marks := by
  have hnone := (Format.fields_new "(?<time>a)(?<level>b)(?<text>c)").2.2
  show (Format.new "(?<time>a)(?<level>b)(?<text>c)").value.highlights ++ _ ++ _ ++ _ ++ _ ++ _ = _
  rw [hnone]
  rfl

theorem inert_highlights_without_influence_marked :
    marked.Made ∧ Line.read marked "abc" = .parsed [⟨"b", some ⟨3, 0, 0⟩, none⟩, ⟨"c", some ⟨4, 0, 0⟩, none⟩] ∧
      Line.read (marked.remove 0) "abc" = Line.read marked "abc" ∧
      Line.read (marked.remove 1) "abc" = Line.read marked "abc" ∧
      Line.read { marked with highlights := marks.take 2 ++ marks[3] :: marks[2] :: marks.drop 4 } "abc" =
        Line.read marked "abc" ∧
      ∀ new, (Line.read { marked with highlights := marked.highlights.insertIdx 3 new } "abc").cells[0]? =
        (Line.read marked "abc").cells[0]? := by
  have hcells : Line.parse marked "abc" = .parsed [{ text := "b" }, { text := "c" }] := by decide +kernel
  have hcount : marked.columnCount = 2 := by decide +kernel
  have hat : ∀ i : Nat, marked.highlights[i]? = marks[i]? := fun i => by rw [highlights_marked]
  obtain ⟨hremove, hswap, hinsert⟩ := inert_highlights_without_influence made_marked "abc"
  refine ⟨made_marked, by decide +kernel, ?_, ?_, ?_, fun new => ?_⟩
  · exact hremove 0 (marks[0]) (hat 0) (.inl ⟨.unknownOperator, rfl⟩)
  · exact hremove 1 (marks[1]) (hat 1) (.inr (Nat.le_of_eq hcount))
  · exact hswap (marks.take 2) (marks[2]) (marks[3]) (marks.drop 4) highlights_marked rfl rfl (by decide)
  · have hmarks : Highlight.Marks (marks[2]) [{ text := "b" }, { text := "c" }] 0 :=
      ⟨.inr rfl, { text := "b" }, rfl, by decide⟩
    exact hinsert _ 2 (marks[2]) 0 3 new hcells (hat 2) hmarks (by decide)

end LogTable
