import Mathlib.Data.List.Forall2
import LogTable.Proofs.Sheet

/-!
# The table refines its sheet

Whatever is done to a table and to its lines, in any order, each answer is that of the sheet, which keeps
nothing: `answers_within`. `Desk.step` does one thing to a table and its lines, and `Sheet.step` does the
same thing to a sheet.

Lines may come behind the others at any time. They may also be rewritten in any way, but then nothing may be
asked until the rows that are kept have been forgotten: `orderly`. Growth is announced with any numbers, true
or not.

The one question whose answer depends on what is kept is for a row that is kept (`Question.kept`). A table
may say that it keeps none; what it keeps is the sheet's row (`Answer.Within`).
-/
namespace LogTable

inductive Question
  | cell (row column : Nat)
  | datum (row column : Nat) (role : Table.Role)
  | row (row : Nat)
  | kept (row : Nat)

/-- What can happen to a table and its lines. -/
inductive Op
  | setFormat (f : Format)
  | reset
  | notice (c : LineChange)
  | append (more : Lines)
  | rewrite (others : Lines)
  | ask (q : Question)

inductive Answer
  | done
  | event (e : TableEvent)
  | cell (c : Option Cell)
  | datum (d : Option Table.Datum)
  | row (cells : Option (List Cell))
  | kept (line : Option Line)

/-- The first answer is the second, or that no row is kept. -/
inductive Answer.Within : Answer → Answer → Prop
  | same (a : Answer) : Within a a
  | unkept (line : Option Line) : Within (.kept none) (.kept line)

/-! ## With a store -/

/-- A table and its lines. -/
structure Desk where
  table : Table
  lines : Lines

namespace Desk

def ask (d : Desk) : Question → Answer × Table
  | .cell row column => let (c, t) := (d.table.cell? d.lines row column).value; (.cell c, t)
  | .datum row column role => let (x, t) := (d.table.datum? d.lines row column role).value; (.datum x, t)
  | .row row => let (cells, t) := (d.table.row? d.lines row).value; (.row cells, t)
  | .kept row => (.kept (d.table.kept? row), d.table)

def step (d : Desk) : Op → Answer × Desk
  | .setFormat f => (.done, { d with table := (d.table.setFormat f).value })
  | .reset => (.done, { d with table := d.table.reset.value })
  | .notice c => let (t, e) := (d.table.notice c).value; (.event e, { d with table := t })
  | .append more => (.done, { d with lines := d.lines ++ more })
  | .rewrite others => (.done, { d with lines := others })
  | .ask q => let (a, t) := d.ask q; (a, { d with table := t })

def answers (d : Desk) : List Op → List Answer
  | [] => []
  | op :: ops => (d.step op).1 :: (d.step op).2.answers ops

end Desk

/-! ## Without -/

namespace Sheet

def ask (s : Sheet) : Question → Answer
  | .cell row column => .cell (s.cell? row column)
  | .datum row column role => .datum (s.datum? row column role)
  | .row row => .row (s.row? row)
  | .kept row => .kept (s.line? row)

/-- Growth is passed on as rows that came; anything else may have changed everything. -/
def eventOf (c : LineChange) : TableEvent := if c.old < c.new then .inserted c.old c.new else .reset

def step (s : Sheet) : Op → Answer × Sheet
  | .setFormat f => (.done, { s with format := some f })
  | .reset => (.done, s)
  | .notice c => (.event (eventOf c), s)
  | .append more => (.done, { s with lines := s.lines ++ more })
  | .rewrite others => (.done, { s with lines := others })
  | .ask q => (s.ask q, s)

def answers (s : Sheet) : List Op → List Answer
  | [] => []
  | op :: ops => (s.step op).1 :: (s.step op).2.answers ops

end Sheet

/-! ## The order of things -/

/-- Whether rows that are kept may be outdated after this, given whether they may be before it. -/
def Op.staleAfter (stale : Bool) : Op → Bool
  | .setFormat _ | .reset => false
  | .notice c => stale && c.grows
  | .rewrite _ => true
  | .append _ | .ask _ => stale

def Op.isAsk : Op → Bool
  | .ask _ => true
  | _ => false

/-- Nothing is asked while rows that are kept may be outdated. -/
def orderly : Bool → List Op → Bool
  | _, [] => true
  | stale, op :: ops => !(op.isAsk && stale) && orderly (op.staleAfter stale) ops

/-! ## One step -/

/-- The desk shows the sheet, and its table is fresh unless rows may be outdated. -/
structure Desk.Shows (d : Desk) (s : Sheet) (stale : Bool) : Prop where
  sheet : d.table.sheet d.lines = s
  fresh : stale = false → d.table.Fresh d.lines

/-- A question that is answered like the sheet leaves a desk that shows the same sheet. -/
theorem Desk.within_of_answers {d : Desk} {q : Logged (α × Table)} {a : α} (answer : α → Answer)
    (h : Table.Answers d.table d.lines q a) :
    Answer.Within (answer q.value.1) (answer a) ∧
      Desk.Shows { d with table := q.value.2 } (d.table.sheet d.lines) false := by
  refine ⟨?_, h.sheet, fun _ => h.fresh⟩
  rw [h.value]
  exact .same _

theorem Desk.ask_step {d : Desk} {s : Sheet} (h : d.Shows s false) (q : Question) :
    Answer.Within (d.ask q).1 (s.ask q) ∧ Desk.Shows { d with table := (d.ask q).2 } s false := by
  obtain ⟨rfl, hf⟩ := h
  have hfresh := hf rfl
  cases q with
  | cell row column => exact within_of_answers .cell (Table.cell?_answers hfresh row column)
  | datum row column role => exact within_of_answers .datum (Table.datum?_answers hfresh row column role)
  | row row =>
    have ha := within_of_answers .row (Table.row?_answers hfresh row)
    exact ha
  | kept row =>
    refine ⟨?_, rfl, hf⟩
    simp only [ask, Sheet.ask]
    cases hk : d.table.kept? row with
    | none => exact .unkept _
    | some line =>
      rw [hfresh row line hk]
      exact .same _

theorem Desk.shows_step {d : Desk} {s : Sheet} {stale : Bool} (h : d.Shows s stale) (op : Op)
    (hop : (op.isAsk && stale) = false) :
    Answer.Within (d.step op).1 (s.step op).1 ∧ (d.step op).2.Shows (s.step op).2 (op.staleAfter stale) := by
  have h' := h
  obtain ⟨rfl, hf⟩ := h
  cases op with
  | setFormat f => exact ⟨.same _, rfl, fun _ => d.table.fresh_setFormat f d.lines⟩
  | reset => exact ⟨.same _, rfl, fun _ => d.table.fresh_reset d.lines⟩
  | notice c =>
    have hsheet : (d.table.notice c).value.1.sheet d.lines = d.table.sheet d.lines := by
      unfold Table.sheet
      rw [d.table.format_notice c]
    cases hc : c.grows with
    | true =>
      have hlt : c.old < c.new := by simpa [LineChange.grows] using hc
      refine ⟨?_, hsheet, fun hst => Table.fresh_notice (hf (by simpa [Op.staleAfter, hc] using hst)) c⟩
      simp only [step, Sheet.step, Sheet.eventOf, if_pos hlt, Table.notice_grows hc]
      exact .same _
    | false =>
      have hge : ¬ c.old < c.new := by simpa [LineChange.grows] using hc
      refine ⟨?_, hsheet, fun _ => Table.fresh_notice_reset hc d.table d.lines⟩
      simp only [step, Sheet.step, Sheet.eventOf, if_neg hge, Table.notice_not_grows hc]
      exact .same _
  | append more => exact ⟨.same _, rfl, fun hst => (hf hst).append more⟩
  | rewrite others => exact ⟨.same _, rfl, fun hst => by cases hst⟩
  | ask q =>
    have hst : stale = false := by simpa [Op.isAsk] using hop
    subst hst
    exact Desk.ask_step h' q

/-! ## A whole run -/

theorem Desk.answers_within_of_shows {d : Desk} {s : Sheet} {stale : Bool} (h : d.Shows s stale)
    (ops : List Op) (ho : orderly stale ops = true) :
    List.Forall₂ Answer.Within (d.answers ops) (s.answers ops) := by
  induction ops generalizing d s stale with
  | nil => exact .nil
  | cons op ops ih =>
    simp only [orderly, Bool.and_eq_true, Bool.not_eq_true'] at ho
    obtain ⟨hw, hs⟩ := Desk.shows_step h op ho.1
    exact .cons hw (ih hs ho.2)

/-- **The table refines its sheet.** Start with a table without a format, over any lines, and do anything to
both in an orderly way: every answer is the one worked out afresh from the lines and the format there are
then. -/
theorem Desk.answers_within (lines : Lines) (ops : List Op) (ho : orderly false ops = true) :
    List.Forall₂ Answer.Within (Desk.answers ⟨{}, lines⟩ ops) (Sheet.answers ⟨none, lines⟩ ops) := by
  have hs : Desk.Shows ⟨{}, lines⟩ ⟨none, lines⟩ false := ⟨rfl, fun _ => Table.fresh_empty lines⟩
  exact Desk.answers_within_of_shows hs ops ho

/-- Lines come and are replaced, with growth told of that has not happened and a format that is set again. -/
def busyRun : List Op :=
  [.ask (.cell 0 0), .setFormat Format.plain.value, .ask (.row 0), .append #["c"], .ask (.cell 2 0),
    .notice ⟨3, 2⟩, .notice ⟨9, 0⟩, .ask (.kept 0), .rewrite #["d"], .notice ⟨4, 1⟩, .append #["e", "f"],
    .notice ⟨3, 3⟩, .ask (.datum 0 0 .text), .rewrite #[], .reset, .ask (.row 0), .rewrite #["g"],
    .setFormat Format.plain.value, .ask (.kept 0), .ask (.cell 0 0)]

theorem Desk.busyRun_within : orderly false busyRun = true ∧
    List.Forall₂ Answer.Within (Desk.answers ⟨{}, #["a", "b"]⟩ busyRun)
      (Sheet.answers ⟨none, #["a", "b"]⟩ busyRun) :=
  have ho : orderly false busyRun = true := by decide
  ⟨ho, Desk.answers_within #["a", "b"] busyRun ho⟩

end LogTable
