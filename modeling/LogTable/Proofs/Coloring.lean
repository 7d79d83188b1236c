import LogTable.Paint

/-!
# A line is painted by the first highlights

Painting a line goes over its cells once and remembers the verdict of every highlight that has been asked. What
comes out is what the plain walk over the highlights gives for each cell by itself.

A highlight `Marks` the cell of a column if it may color it and its condition holds on the cell that it looks at;
`First` picks the highlight of least number that does. Verdicts are `Sound` if each one that is remembered is the
highlight's own, whatever column it was asked for in, and if nobody was asked twice. Coloring a cell keeps them so
(`paintCell_spec`), and then a run over any columns does (`paintColumns_spec`). A highlight is asked if it `HasTurn`
in some column: it reaches that column and no highlight before it marks the cell.

Results: `painted_by_first`.
-/
namespace LogTable

/-- The colors that a cell has. -/
def Cell.colors (cell : Cell) : Colors := ⟨cell.fg, cell.bg⟩

/-! ## The first highlight -/

/-- The highlight colors the cell of a column: it is one for the whole row or for this column, and the cell that it
looks at is there, with a text on which its condition holds. -/
def Highlight.Marks (h : Highlight) (cells : List Cell) (column : Nat) : Prop :=
  (h.scope = .row ∨ h.column = column) ∧
    ∃ cell, cells[h.column]? = some cell ∧ h.condition.holds cell.text = true

/-- Number `i` of the highlights is `h`, which has the property, and none with a smaller number has it. -/
structure First (p : Highlight → Prop) (highlights : List Highlight) (i : Nat) (h : Highlight) : Prop where
  place : highlights[i]? = some h
  holds : p h
  least : ∀ (j : Nat) (h' : Highlight), highlights[j]? = some h' → p h' → i ≤ j

namespace Highlight

theorem reaches_iff (h : Highlight) (column : Nat) :
    h.reaches column = true ↔ h.scope = .row ∨ h.column = column := by
  simp [reaches]

theorem holdsOn_iff (h : Highlight) (cells : List Cell) :
    h.holdsOn cells = true ↔ ∃ cell, cells[h.column]? = some cell ∧ h.condition.holds cell.text = true := by
  simp [holdsOn, holds, Option.any_eq_true]

theorem applies_iff (h : Highlight) (cells : List Cell) (column : Nat) :
    h.applies cells column = true ↔ h.Marks cells column := by
  rw [applies, Bool.and_eq_true, reaches_iff, holdsOn_iff, Marks]

end Highlight

/-- The walk over the highlights stops at the first with the property. -/
theorem firstColors_spec (p : Highlight → Bool) (highlights : List Highlight) :
    (∃ i h, First (p · = true) highlights i h ∧ firstColors p highlights = h.colors) ∨
      (∀ h ∈ highlights, p h = false) ∧ firstColors p highlights = {} := by
  unfold firstColors
  cases hfind : highlights.find? p with
  | none =>
    refine .inr ⟨fun h hmem => ?_, rfl⟩
    simpa using List.find?_eq_none.1 hfind h hmem
  | some h =>
    obtain ⟨hp, i, hi, rfl, hbefore⟩ := List.find?_eq_some_iff_getElem.1 hfind
    refine .inl ⟨i, highlights[i], ⟨List.getElem?_eq_getElem hi, hp, fun j h' hj hp' => ?_⟩, rfl⟩
    refine Nat.le_of_not_lt fun hlt => ?_
    obtain ⟨hj', rfl⟩ := List.getElem?_eq_some_iff.1 hj
    have hno := hbefore j hlt
    rw [hp'] at hno
    cases hno

theorem firstColors_cons (p : Highlight → Bool) (h : Highlight) (rest : List Highlight) :
    firstColors p (h :: rest) = if p h then h.colors else firstColors p rest := by
  unfold firstColors
  rw [List.find?_cons]
  cases p h <;> rfl

/-- The walk asks the highlights for nothing but the property. -/
theorem firstColors_congr {p q : Highlight → Bool} {highlights : List Highlight}
    (h : ∀ x ∈ highlights, p x = q x) : firstColors p highlights = firstColors q highlights := by
  induction highlights with
  | nil => rfl
  | cons x rest ih =>
    rw [firstColors_cons, firstColors_cons, h x List.mem_cons_self,
      ih fun y hy => h y (List.mem_cons_of_mem x hy)]

/-- Without highlights for whole rows a cell is colored by its own text. -/
theorem colorsAt_eq_ownColorsAt {format : Format} {cells : List Cell} {column : Nat} {cell : Cell}
    (hscope : ∀ h ∈ format.highlights, h.scope = .cell) (hcell : cells[column]? = some cell) :
    colorsAt format cells column = ownColorsAt format cell.text column := by
  refine firstColors_congr fun h hmem => ?_
  rw [Bool.eq_iff_iff, Highlight.applies_iff]
  simp only [Highlight.Marks, hscope h hmem, Bool.and_eq_true, decide_eq_true_eq, true_and, reduceCtorEq, false_or,
    Highlight.holds]
  constructor
  · rintro ⟨hcol, own, hown, hholds⟩
    rw [hcol, hcell] at hown
    cases hown
    exact ⟨hcol, hholds⟩
  · rintro ⟨hcol, hholds⟩
    exact ⟨hcol, cell, by rw [hcol, hcell], hholds⟩

/-! ## Verdicts that are remembered -/

/-- The turn of highlight `i` comes while the cell of a column is colored. -/
def HasTurn (highlights : List Highlight) (cells : List Cell) (column i : Nat) : Prop :=
  ∃ h, highlights[i]? = some h ∧ (h.scope = .row ∨ h.column = column) ∧
    ∀ j < i, ∀ h', highlights[j]? = some h' → ¬ h'.Marks cells column

theorem hasTurn_cons_zero (h : Highlight) (rest : List Highlight) (cells : List Cell) (column : Nat) :
    HasTurn (h :: rest) cells column 0 ↔ h.reaches column = true := by
  rw [Highlight.reaches_iff]
  simp [HasTurn]

theorem hasTurn_cons_succ (h : Highlight) (rest : List Highlight) (cells : List Cell) (column i : Nat) :
    HasTurn (h :: rest) cells column (i + 1) ↔ ¬ h.Marks cells column ∧ HasTurn rest cells column i := by
  simp only [HasTurn, List.getElem?_cons_succ]
  constructor
  · rintro ⟨h', hat, hreach, hbefore⟩
    refine ⟨hbefore 0 (Nat.succ_pos i) h (List.getElem?_cons_zero), h', hat, hreach, fun j hj => ?_⟩
    have := hbefore (j + 1) (Nat.succ_lt_succ hj)
    rwa [List.getElem?_cons_succ] at this
  · rintro ⟨hno, h', hat, hreach, hbefore⟩
    refine ⟨h', hat, hreach, fun j hj => ?_⟩
    cases j with
    | zero =>
      rintro h'' hh
      cases hh
      exact hno
    | succ j =>
      rw [List.getElem?_cons_succ]
      exact hbefore j (Nat.lt_of_succ_lt_succ hj)

/-- Whose turn comes among `h` and the others, when `h` is number `i`. -/
theorem exists_hasTurn_cons (h : Highlight) (rest : List Highlight) (cells : List Cell) (column i j : Nat) :
    (∃ k, j = i + k ∧ HasTurn (h :: rest) cells column k) ↔
      j = i ∧ h.reaches column = true ∨
        ¬ h.Marks cells column ∧ ∃ k, j = i + 1 + k ∧ HasTurn rest cells column k := by
  constructor
  · rintro ⟨k, rfl, hk⟩
    cases k with
    | zero => exact .inl ⟨rfl, (hasTurn_cons_zero h rest cells column).1 hk⟩
    | succ k =>
      obtain ⟨hno, hk⟩ := (hasTurn_cons_succ h rest cells column k).1 hk
      exact .inr ⟨hno, k, by omega, hk⟩
  · rintro (⟨rfl, hr⟩ | ⟨hno, k, rfl, hk⟩)
    · exact ⟨0, rfl, (hasTurn_cons_zero h rest cells column).2 hr⟩
    · exact ⟨k + 1, by omega, (hasTurn_cons_succ h rest cells column k).2 ⟨hno, hk⟩⟩

namespace Verdicts

/-- Each verdict that is remembered is the highlight's own on these cells, and those asked are those whose verdict
is remembered, once each. -/
structure Sound (v : Verdicts) (highlights : List Highlight) (cells : List Cell) : Prop where
  length : v.given.length = highlights.length
  own : ∀ (i : Nat) (h : Highlight) (b : Bool),
    highlights[i]? = some h → v.given[i]? = some (some b) → b = h.holdsOn cells
  nodup : v.asked.Nodup
  given : ∀ i, i ∈ v.asked ↔ ∃ b : Bool, v.given[i]? = some (some b)

theorem sound_none (highlights : List Highlight) (cells : List Cell) :
    (none highlights.length).Sound highlights cells := by
  refine ⟨List.length_replicate, fun i h b _ hb => ?_, List.nodup_nil, fun i => ?_⟩
  · simp [none, List.getElem?_replicate] at hb
  · simp [none, List.getElem?_replicate]

/-- From the verdicts `v` the highlights with a property have been asked, which led to the verdicts `w`. -/
structure Asks (highlights : List Highlight) (cells : List Cell) (p : Nat → Prop) (v w : Verdicts) : Prop where
  sound : w.Sound highlights cells
  asked : ∀ j, j ∈ w.asked ↔ j ∈ v.asked ∨ p j

theorem Sound.asks_nobody {v : Verdicts} {highlights : List Highlight} {cells : List Cell} {p : Nat → Prop}
    (hs : v.Sound highlights cells) (hp : ∀ j, ¬ p j) : Asks highlights cells p v v :=
  ⟨hs, fun j => by simp [hp j]⟩

theorem Asks.trans {highlights : List Highlight} {cells : List Cell} {p q r : Nat → Prop} {u v w : Verdicts}
    (h₁ : Asks highlights cells p u v) (h₂ : Asks highlights cells q v w) (hr : ∀ j, r j ↔ p j ∨ q j) :
    Asks highlights cells r u w :=
  ⟨h₂.sound, fun j => by rw [h₂.asked, h₁.asked, hr, or_assoc]⟩

/-- A highlight that is asked gives its own verdict, whether it is remembered or not. -/
theorem Sound.ask {v : Verdicts} {highlights : List Highlight} {cells : List Cell} {i : Nat} {h : Highlight}
    (hs : v.Sound highlights cells) (hi : highlights[i]? = some h) :
    (v.ask cells i h).1 = h.holdsOn cells ∧ Asks highlights cells (· = i) v (v.ask cells i h).2 := by
  have hlt : i < v.given.length := hs.length ▸ (List.getElem?_eq_some_iff.1 hi).1
  unfold Verdicts.ask
  split
  · rename_i b hb
    have hgiven : v.given[i]? = some (some b) := Option.join_eq_some_iff.1 hb
    refine ⟨hs.own i h b hi hgiven, hs, fun j => ⟨.inl, ?_⟩⟩
    rintro (hj | rfl)
    · exact hj
    · exact (hs.given j).2 ⟨b, hgiven⟩
  · rename_i hb
    have hnew : i ∉ v.asked := by
      intro hmem
      obtain ⟨b, hgiven⟩ := (hs.given i).1 hmem
      rw [hgiven] at hb
      cases hb
    refine ⟨rfl, ⟨?_, fun j h' b hj hgiven => ?_, List.nodup_cons.2 ⟨hnew, hs.nodup⟩, fun j => ?_⟩, fun j => ?_⟩
    · simpa using hs.length
    · rw [List.getElem?_set] at hgiven
      split at hgiven
      · rename_i he
        subst he
        rw [hi] at hj
        cases hj
        simpa [hlt] using hgiven.symm
      · exact hs.own j h' b hj hgiven
    · rw [List.mem_cons, hs.given j, List.getElem?_set]
      by_cases he : i = j
      · subst he
        simp [hlt]
      · simp [he, Ne.symm he]
    · rw [List.mem_cons, or_comm]

end Verdicts

/-! ## Painting -/

theorem paintCell_unreached {h : Highlight} {column : Nat} (hr : h.reaches column = false) (cells : List Cell)
    (i : Nat) (rest : List Highlight) (v : Verdicts) :
    paintCell cells column i (h :: rest) v = paintCell cells column (i + 1) rest v := by
  rw [paintCell, hr]
  rfl

theorem paintCell_reached {h : Highlight} {column : Nat} (hr : h.reaches column = true) (cells : List Cell)
    (i : Nat) (rest : List Highlight) (v : Verdicts) :
    paintCell cells column i (h :: rest) v =
      if (v.ask cells i h).1 then (h.colors, (v.ask cells i h).2)
      else paintCell cells column (i + 1) rest (v.ask cells i h).2 := by
  rw [paintCell, hr]
  obtain ⟨b, w⟩ := v.ask cells i h
  cases b <;> rfl

/-- Coloring one cell by the highlights that are left, which are those from number `i` on: the first that marks the
cell gives its colors, and those are asked whose turn comes. The induction is on the highlights left. -/
theorem paintCell_spec {highlights : List Highlight} {cells : List Cell} (column : Nat) {rest : List Highlight}
    {i : Nat} {v : Verdicts} (hrest : ∀ k, highlights[i + k]? = rest[k]?) (hs : v.Sound highlights cells) :
    (paintCell cells column i rest v).1 = firstColors (·.applies cells column) rest ∧
      Verdicts.Asks highlights cells (fun j => ∃ k, j = i + k ∧ HasTurn rest cells column k) v
        (paintCell cells column i rest v).2 := by
  induction rest generalizing i v with
  | nil => exact ⟨rfl, hs.asks_nobody fun j => by simp [HasTurn]⟩
  | cons h rest ih =>
    have hat : highlights[i]? = some h := hrest 0
    have hrest' : ∀ k, highlights[i + 1 + k]? = rest[k]? := by
      intro k
      have := hrest (k + 1)
      rwa [List.getElem?_cons_succ, Nat.add_comm k 1, ← Nat.add_assoc] at this
    rw [firstColors_cons, Highlight.applies]
    cases hr : h.reaches column with
    | false =>
      have hno : ¬ h.Marks cells column := by simp [← Highlight.applies_iff, Highlight.applies, hr]
      obtain ⟨hcolors, hasks⟩ := ih hrest' hs
      rw [paintCell_unreached hr]
      refine ⟨hcolors, (hs.asks_nobody fun _ => not_false).trans hasks fun j => ?_⟩
      simp [exists_hasTurn_cons, hr, hno]
    | true =>
      obtain ⟨hown, hask⟩ := hs.ask hat
      have hmarks : h.Marks cells column ↔ h.holdsOn cells = true := by
        simp [← Highlight.applies_iff, Highlight.applies, hr]
      rw [paintCell_reached hr, hown]
      cases hholds : h.holdsOn cells with
      | true =>
        refine ⟨rfl, hask.trans (hask.sound.asks_nobody fun _ => not_false) fun j => ?_⟩
        simp [exists_hasTurn_cons, hr, hmarks, hholds]
      | false =>
        obtain ⟨hcolors, hasks⟩ := ih hrest' hask.sound
        refine ⟨hcolors, hask.trans hasks fun j => ?_⟩
        simp [exists_hasTurn_cons, hr, hmarks, hholds]

/-- Coloring the cells of some columns, one behind the other, with the verdicts of those before. -/
theorem paintColumns_spec {highlights : List Highlight} {cells : List Cell} (columns : List Nat) {v : Verdicts}
    (hs : v.Sound highlights cells) :
    (paintColumns highlights cells columns v).1 =
        columns.map (fun column => firstColors (·.applies cells column) highlights) ∧
      Verdicts.Asks highlights cells (fun j => ∃ column ∈ columns, HasTurn highlights cells column j) v
        (paintColumns highlights cells columns v).2 := by
  induction columns generalizing v with
  | nil => exact ⟨rfl, hs.asks_nobody fun j => by simp⟩
  | cons column columns ih =>
    have hrest : ∀ k, highlights[0 + k]? = highlights[k]? := fun k => by rw [Nat.zero_add]
    obtain ⟨hcolors, hasks⟩ := paintCell_spec column hrest hs
    obtain ⟨hcolors', hasks'⟩ := ih hasks.sound
    rw [paintColumns, List.map_cons, ← hcolors, ← hcolors']
    refine ⟨rfl, hasks.trans hasks' fun j => ?_⟩
    simp

theorem paintCells_spec (highlights : List Highlight) (cells : List Cell) :
    (paintCells highlights cells).1 =
        (List.range cells.length).map (fun column => firstColors (·.applies cells column) highlights) ∧
      (paintCells highlights cells).2.asked.Nodup ∧
      ∀ j, j ∈ (paintCells highlights cells).2.asked ↔
        ∃ column < cells.length, HasTurn highlights cells column j := by
  obtain ⟨hcolors, hasks⟩ := paintColumns_spec (List.range cells.length) (Verdicts.sound_none highlights cells)
  refine ⟨hcolors, hasks.sound.nodup, fun j => (hasks.asked j).trans ?_⟩
  simp [Verdicts.none]

/-- A line is painted cell by cell. -/
theorem paint_parsed (format : Format) (cells : List Cell) :
    paint format (.parsed cells) = .parsed (cells.mapIdx fun i cell =>
      { cell with fg := (colorsAt format cells i).fg, bg := (colorsAt format cells i).bg }) := by
  simp only [paint, (paintCells_spec format.highlights cells).1, Line.parsed.injEq]
  apply List.ext_getElem
  · simp
  · intro i hi hi'
    simp [colorsAt]

/-- **A line is painted by the first highlights.** A line that did not parse is left as it is. Any other keeps its
cells with their texts, and each cell has the colors that the walk over the highlights gives it: both colors of the
first highlight that marks it, and none if none does. Without highlights for whole rows its own text decides. No
highlight is asked twice while the line is painted, and those asked are those whose turn comes in some column. -/
theorem painted_by_first (format : Format) (cells : List Cell) :
    paint format .unparsed = .unparsed ∧
    (∃ painted, paint format (.parsed cells) = .parsed painted ∧
      painted.map Cell.text = cells.map Cell.text ∧
      ∀ i cell, painted[i]? = some cell →
        cell.colors = colorsAt format cells i ∧
        ((∃ k h, First (·.Marks cells i) format.highlights k h ∧ cell.colors = h.colors) ∨
          (∀ h ∈ format.highlights, ¬ h.Marks cells i) ∧ cell.colors = {}) ∧
        ((∀ h ∈ format.highlights, h.scope = .cell) → cell.colors = ownColorsAt format cell.text i)) ∧
    (paintCells format.highlights cells).2.asked.Nodup ∧
    ∀ k, k ∈ (paintCells format.highlights cells).2.asked ↔
      ∃ i < cells.length, HasTurn format.highlights cells i k := by
  obtain ⟨-, hnodup, hasked⟩ := paintCells_spec format.highlights cells
  refine ⟨rfl, ⟨_, paint_parsed format cells, ?_, fun i cell hi => ?_⟩, hnodup, hasked⟩
  · apply List.ext_getElem
    · simp
    · intro i hi hi'
      simp
  · rw [List.getElem?_mapIdx, Option.map_eq_some_iff] at hi
    obtain ⟨own, hown, rfl⟩ := hi
    have hown' : (∀ h ∈ format.highlights, h.scope = .cell) →
        colorsAt format cells i = ownColorsAt format own.text i := fun hscope => colorsAt_eq_ownColorsAt hscope hown
    refine ⟨rfl, ?_, hown'⟩
    have hspec := firstColors_spec (fun h => h.applies cells i) format.highlights
    simp only [Highlight.applies_iff, ← Bool.not_eq_true] at hspec
    exact hspec

end LogTable
