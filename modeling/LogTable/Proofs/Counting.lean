import LogTable.Proofs.Notices
import LogTable.Proofs.Refinement

/-!
# Keeping count of the rows

A table shows the lines of a file that is followed. A look at the file gives notices of what became of the lines;
the table takes notice of them in their order and gives an event for each. Someone who listens to these events can
keep count of the rows: ask for their number after a reset, and count those that came otherwise.

The lines are what they are after the look before the first of its events is given, and so is the number of rows
that is answered after a reset. For a file that has been read from the start there are two events, a reset and then
its lines, if it has any. After the reset these are counted already. A listener who adds what came
(`TableEvent.adding`) counts them twice and is wrong by as many rows until the next reset (`TableEvent.twice`).
One who takes only the rows behind those that are counted (`TableEvent.extending`) is right after every look.

* `Batch`: the events that one look can lead to (`batch_look`).
* `Sound`: the two counts against the number of rows. It is kept by every turn (`sound_step`), and so by every run
  (`sound_run`).

Results: `rows_counted`, and `rows_counted_twice` with a file of one line in place of three.
-/
namespace LogTable

namespace TableEvent

/-- The count of a listener who adds the rows that came. -/
def adding (rowCount count : Nat) : TableEvent → Nat
  | .reset => rowCount
  | .inserted start stop => count + (stop - start)

/-- The count of a listener who goes on to where the rows that came end, unless they are counted already. -/
def extending (rowCount count : Nat) : TableEvent → Nat
  | .reset => rowCount
  | .inserted _ stop => max count stop

/-- Events, each with the count that the listener has come to before it. -/
def heard (listener : Nat → TableEvent → Nat) (count : Nat) : List TableEvent → List (Nat × TableEvent)
  | [] => []
  | e :: rest => (count, e) :: heard listener (listener count e) rest

/-- How many rows came. -/
def came : List TableEvent → Nat
  | [] => 0
  | .reset :: rest => came rest
  | .inserted start stop :: rest => stop - start + came rest

/-- The rows that came behind a reset among the same events; without a reset, as many as `before`. -/
def twice (before : Nat) : List TableEvent → Nat
  | .reset :: rest => came rest
  | _ => before

/-- What one look can lead to when there are so many rows before it and after it. -/
inductive Batch (before after : Nat) : List TableEvent → Prop
  | silent : after = before → Batch before after []
  | grown : before < after → Batch before after [.inserted before after]
  | emptied : after = 0 → Batch before after [.reset]
  /-- The file has been read from the start. -/
  | reread : 0 < after → Batch before after [.reset, .inserted 0 after]

end TableEvent

open TableEvent (Batch heard)

/-! ## The events of a look -/

/-- The events of some changes, of which the table takes notice in their order. -/
def Table.noticeAll (t : Table) : List LineChange → Table × List TableEvent
  | [] => (t, [])
  | c :: rest =>
    let (t, e) := (t.notice c).value
    let (t, events) := t.noticeAll rest
    (t, e :: events)

theorem Table.notice_event (t : Table) (c : LineChange) : (t.notice c).value.2 = Sheet.eventOf c := by
  unfold Sheet.eventOf
  cases h : c.grows with
  | true =>
    have hlt : c.old < c.new := by simpa [LineChange.grows] using h
    rw [Table.notice_grows h, if_pos hlt]
  | false =>
    have hge : ¬ c.old < c.new := by simpa [LineChange.grows] using h
    rw [Table.notice_not_grows h, if_neg hge]

theorem Table.noticeAll_events (t : Table) (changes : List LineChange) :
    (t.noticeAll changes).2 = changes.map Sheet.eventOf := by
  induction changes generalizing t with
  | nil => rfl
  | cons c rest ih =>
    simp only [noticeAll, List.map_cons, ih, t.notice_event c]

theorem Told.batch {old new : Lines} {changes : List LineChange} (h : Told old new changes) :
    Batch old.size new.size (changes.map Sheet.eventOf) := by
  cases h with
  | same h => exact .silent (congrArg Array.size h)
  | grown more hne hnew =>
    have hpos : 0 < more.length := List.length_pos_iff.2 hne
    have hlt : old.size < new.size := by
      simp only [hnew, Array.size_append, List.size_toArray]
      omega
    have hevents : [(⟨new.size, old.size⟩ : LineChange)].map Sheet.eventOf = [.inserted old.size new.size] := by
      simp only [List.map_cons, List.map_nil, Sheet.eventOf, if_pos hlt]
    rw [hevents]
    exact .grown hlt
  | replaced =>
    have hreset : Sheet.eventOf ⟨0, old.size⟩ = .reset := if_neg (Nat.not_lt_zero _)
    by_cases hz : new.size = 0
    · rw [if_pos hz, List.map_cons, hreset]
      exact .emptied hz
    · have hpos : 0 < new.size := Nat.pos_of_ne_zero hz
      have hcame : Sheet.eventOf ⟨new.size, 0⟩ = .inserted 0 new.size := if_pos hpos
      rw [if_neg hz, List.map_cons, List.map_cons, hreset, hcame]
      exact .reread hpos

/-! ## Listeners -/

/-- A table over the lines of a file that is followed, and two who keep count of its rows. -/
structure Listening where
  follower : Follower
  table : Table
  added : Nat
  extended : Nat
  /-- Rows that the first of them has counted twice. -/
  twice : Nat := 0

namespace Listening

inductive Turn
  /-- A look at the file, which may change between looking and reading, and all that it leads to. -/
  | look (first then' : Disk)
  | setFormat (f : Format)
  | reset
  | ask (q : Question)

def rowCount (s : Listening) : Nat := s.follower.lines.size

/-- Both listeners have asked for the number of rows. -/
def start (follower : Follower) (table : Table) : Listening :=
  { follower, table, added := follower.lines.size, extended := follower.lines.size }

/-- Events are given to both, who are answered the number of rows that there are by now. -/
def hear (s : Listening) (events : List TableEvent) : Listening :=
  { s with
    added := events.foldl (TableEvent.adding s.rowCount) s.added
    extended := events.foldl (TableEvent.extending s.rowCount) s.extended
    twice := TableEvent.twice s.twice events }

/-- The events that a look leads to. -/
def events (s : Listening) (first then' : Disk) : List TableEvent :=
  (s.table.noticeAll (s.follower.lookAcross first then').2).2

def step (s : Listening) : Turn → Listening
  | .look first then' =>
    let (follower, changes) := s.follower.lookAcross first then'
    let (table, events) := s.table.noticeAll changes
    { s with follower, table }.hear events
  | .setFormat f => { s with table := (s.table.setFormat f).value }.hear [.reset]
  | .reset => { s with table := s.table.reset.value }.hear [.reset]
  | .ask q => { s with table := (Desk.ask ⟨s.table, s.follower.lines⟩ q).2 }

def run (s : Listening) (turns : List Turn) : Listening := turns.foldl step s

theorem batch_look (s : Listening) (first then' : Disk) :
    Batch s.rowCount (s.step (.look first then')).rowCount (s.events first then') := by
  rw [events, Table.noticeAll_events]
  exact (s.follower.told_lookAcross first then').batch

/-! ## What every turn keeps -/

structure Sound (s : Listening) : Prop where
  added : s.added = s.rowCount + s.twice
  extended : s.extended = s.rowCount

/-- A reset by itself puts both counts right. -/
theorem sound_hear_reset (s : Listening) : (s.hear [.reset]).Sound := ⟨rfl, rfl⟩

theorem sound_look {s : Listening} (h : s.Sound) (first then' : Disk) : (s.step (.look first then')).Sound := by
  obtain ⟨hadded, hextended⟩ := h
  have hbatch := s.batch_look first then'
  have hadd : (s.step (.look first then')).added = (s.events first then').foldl
      (TableEvent.adding (s.step (.look first then')).rowCount) s.added := rfl
  have hext : (s.step (.look first then')).extended = (s.events first then').foldl
      (TableEvent.extending (s.step (.look first then')).rowCount) s.extended := rfl
  have htwice : (s.step (.look first then')).twice = TableEvent.twice s.twice (s.events first then') := rfl
  generalize s.step (.look first then') = after at *
  generalize s.events first then' = events at *
  cases hbatch with
  | silent hsame =>
    simp only [List.foldl_nil, TableEvent.twice] at hadd hext htwice
    constructor <;> omega
  | grown hlt =>
    simp only [List.foldl_cons, List.foldl_nil, TableEvent.adding, TableEvent.extending,
      TableEvent.twice] at hadd hext htwice
    constructor <;> omega
  | emptied hzero =>
    simp only [List.foldl_cons, List.foldl_nil, TableEvent.adding, TableEvent.extending, TableEvent.twice,
      TableEvent.came] at hadd hext htwice
    constructor <;> omega
  | reread hpos =>
    simp only [List.foldl_cons, List.foldl_nil, TableEvent.adding, TableEvent.extending, TableEvent.twice,
      TableEvent.came] at hadd hext htwice
    constructor <;> omega

theorem sound_step {s : Listening} (h : s.Sound) (turn : Turn) : (s.step turn).Sound := by
  cases turn with
  | look first then' => exact sound_look h first then'
  | setFormat f => exact sound_hear_reset _
  | reset => exact sound_hear_reset _
  | ask q => exact ⟨h.added, h.extended⟩

theorem sound_run {s : Listening} (h : s.Sound) (turns : List Turn) : (s.run turns).Sound := by
  unfold run
  induction turns generalizing s with
  | nil => exact h
  | cons turn turns ih => exact ih (sound_step h turn)

/-! ## The counts at the events of a look -/

/-- Rows that came start behind what is counted, but for those counted twice. -/
theorem heard_adding {s : Listening} (h : s.Sound) {first then' : Disk} {count start stop : Nat}
    (hheard : (count, .inserted start stop) ∈
      heard (TableEvent.adding (s.step (.look first then')).rowCount) s.added (s.events first then')) :
    stop = (s.step (.look first then')).rowCount ∧ count = start + (s.step (.look first then')).twice := by
  have hbatch := s.batch_look first then'
  have htwice : (s.step (.look first then')).twice = TableEvent.twice s.twice (s.events first then') := rfl
  have hadded := h.added
  generalize s.step (.look first then') = after at *
  generalize s.events first then' = events at *
  cases hbatch with
  | silent hsame => simp [heard] at hheard
  | grown hlt =>
    simp only [heard, List.mem_singleton, Prod.mk.injEq, TableEvent.inserted.injEq] at hheard
    obtain ⟨rfl, rfl, rfl⟩ := hheard
    simp only [TableEvent.twice] at htwice
    exact ⟨rfl, by omega⟩
  | emptied hzero => simp [heard] at hheard
  | reread hpos =>
    simp only [heard, TableEvent.adding, List.mem_cons, List.not_mem_nil, Prod.mk.injEq, reduceCtorEq, and_false,
      false_or, or_false, TableEvent.inserted.injEq] at hheard
    obtain ⟨rfl, rfl, rfl⟩ := hheard
    simp only [TableEvent.twice, TableEvent.came] at htwice
    exact ⟨rfl, by omega⟩

/-- Rows that came start behind what is counted, or else all of them are counted since the reset just before. -/
theorem heard_extending {s : Listening} (h : s.Sound) {first then' : Disk} {count start stop : Nat}
    (hheard : (count, .inserted start stop) ∈
      heard (TableEvent.extending (s.step (.look first then')).rowCount) s.extended (s.events first then')) :
    stop = (s.step (.look first then')).rowCount ∧
      (count = start ∨ s.events first then' = [.reset, .inserted 0 stop] ∧ start = 0 ∧ count = stop) := by
  have hbatch := s.batch_look first then'
  have hextended := h.extended
  generalize s.step (.look first then') = after at *
  generalize s.events first then' = events at *
  cases hbatch with
  | silent hsame => simp [heard] at hheard
  | grown hlt =>
    simp only [heard, List.mem_singleton, Prod.mk.injEq, TableEvent.inserted.injEq] at hheard
    obtain ⟨rfl, rfl, rfl⟩ := hheard
    exact ⟨rfl, .inl hextended⟩
  | emptied hzero => simp [heard] at hheard
  | reread hpos =>
    simp only [heard, TableEvent.extending, List.mem_cons, List.not_mem_nil, Prod.mk.injEq, reduceCtorEq, and_false,
      false_or, or_false, TableEvent.inserted.injEq] at hheard
    obtain ⟨rfl, rfl, rfl⟩ := hheard
    exact ⟨rfl, .inr ⟨rfl, rfl, rfl⟩⟩

/-- **The rows that listeners count.** Take any looks at the file, with other things done to the table in between.
A listener who adds the rows that came has counted as many too many as came behind the last reset in the same look:
none, or all lines of a file that was read from the start. This holds after every look and when rows are told to
have come. A listener who takes only rows that are not counted yet has the number of rows after every look; when
rows are told to have come they start where the count ends, or have all been counted after the reset before. -/
theorem rows_counted (follower : Follower) (table : Table) (turns : List Turn) :
    let s := run (start follower table) turns
    s.added = s.rowCount + s.twice ∧ s.extended = s.rowCount ∧
    ∀ first then' : Disk,
      let after := s.step (.look first then')
      let events := s.events first then'
      Batch s.rowCount after.rowCount events ∧ after.twice = TableEvent.twice s.twice events ∧
      after.added = after.rowCount + after.twice ∧ after.extended = after.rowCount ∧
      (∀ count start stop,
        (count, .inserted start stop) ∈ heard (TableEvent.adding after.rowCount) s.added events →
          stop = after.rowCount ∧ count = start + after.twice) ∧
      (∀ count start stop,
        (count, .inserted start stop) ∈ heard (TableEvent.extending after.rowCount) s.extended events →
          stop = after.rowCount ∧
            (count = start ∨ events = [.reset, .inserted 0 stop] ∧ start = 0 ∧ count = stop)) := by
  intro s
  have hsound : s.Sound := sound_run ⟨rfl, rfl⟩ turns
  refine ⟨hsound.added, hsound.extended, fun first then' => ?_⟩
  intro after events
  have hafter : after.Sound := sound_look hsound first then'
  refine ⟨s.batch_look first then', rfl, hafter.added, hafter.extended, ?_, ?_⟩
  · intro count start stop hheard
    exact heard_adding hsound hheard
  · intro count start stop hheard
    exact heard_extending hsound hheard

/-- A log of three lines is written anew with one. The row that came starts at 0, where one is counted, and then
there are two counted although there is one. -/
theorem rows_counted_twice :
    let old := ({} : Disk).rotate "app.log" [97, 10, 98, 10, 99, 10]
    let new := old.write "app.log" [120, 10]
    let s := start (.ofFile "app.log" ⟨0, [97, 10, 98, 10, 99, 10], 0⟩) {}
    let after := s.step (.look new new)
    Follower.open? old "app.log" = .ok s.follower ∧ s.added = 3 ∧
      s.events new new = [.reset, .inserted 0 1] ∧ after.rowCount = 1 ∧
      heard (TableEvent.adding after.rowCount) s.added (s.events new new) = [(3, .reset), (1, .inserted 0 1)] ∧
      after.added = 2 := by
  refine ⟨rfl, ?_⟩
  decide +kernel

end Listening

end LogTable
