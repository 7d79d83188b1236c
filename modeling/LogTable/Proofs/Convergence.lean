import Mathlib.Data.List.Basic
import LogTable.Proofs.Refresh
import LogTable.Proofs.Scrolling
import LogTable.Proofs.Sheet

/-!
# The screen converges to the file

A viewer at work beside its watch (`Live`). The watch looks at the files and puts what it finds at the end of a
queue; the lines have changed by then. The viewer takes findings from the front of the queue one at a time,
obeys the user and draws, all in any order. Whoever draws while findings wait shows, and keeps, some rows of
what is there now under numbers that are outdated.

`Live.Sound` is what every step keeps. Findings that are not growth will make the table forget and the view
settle, so as long as one of them waits nothing need hold; once none does, the rows that are kept are fresh,
and the view is in bounds and counts no more rows than there are. Once no news of lines waits at all, it counts
all of them.

Results:
* `Live.sound_reachable`: every reachable state is sound.
* `Live.converges`: with nothing in the queue the screen shows what the file and the format say, and a view
  that follows is at the end after all news of lines or of a format.
-/
namespace LogTable

/-- The rows from `start` up to `stop`, worked out afresh. -/
def Sheet.shot (s : Sheet) (f : Format) (start stop : Nat) : Snapshot where
  headers := f.columns
  firstRow := start
  rows := (List.range' start (stop - start)).map (s.cells f)

structure Live where
  app : App
  /-- The format file as it was seen last, if there is one. -/
  stamp : Option Stamp
  /-- What the watch has found and the viewer has not taken up, oldest first. -/
  queue : List Finding := []

namespace Live

inductive Move
  /-- The watch looks at the log file, which may change between the look and the reading. -/
  | watchLog (first then' : Disk)
  | watchFormat (first then' : Disk)
  /-- The viewer takes up the oldest finding. -/
  | receive
  | act (disk : Disk) (action : Action)
  | snapshot
  | frame

def watchLog (s : Live) (first then' : Disk) : Live :=
  let (follower, found) := (Watch.pollLogAcross s.app.follower first then').value
  { s with app := { s.app with follower }, queue := s.queue ++ found }

def watchFormat (s : Live) (first then' : Disk) : Live :=
  match s.stamp with
  | none => s
  | some stamp =>
    let (stamp, found) := (stamp.pollAcross first then').value
    { s with stamp := some stamp, queue := s.queue ++ found }

def receive (s : Live) : Live :=
  match s.queue with
  | [] => s
  | e :: rest => { s with app := (s.app.receive e).value, queue := rest }

def step (s : Live) : Move → Live
  | .watchLog first then' => s.watchLog first then'
  | .watchFormat first then' => s.watchFormat first then'
  | .receive => s.receive
  | .act disk action => { s with app := (s.app.act disk action).value }
  | .snapshot => { s with app := s.app.snapshot.value.2 }
  | .frame => { s with app := s.app.frame.value.2 }

inductive Reachable : Live → Prop
  | start {config : Config} {disk : Disk} {width height : Nat} {app : App} (stamp : Option Stamp) :
      (App.start config disk width height).value = .ok app → Reachable { app, stamp }
  | next {s : Live} (m : Move) : Reachable s → Reachable (s.step m)

end Live

/-! ## What a viewer shows -/

namespace App

/-- What the viewer should show. -/
def sheet (app : App) : Sheet := app.table.sheet app.follower.lines

/-- The rows that are kept are fresh, and the view is in bounds among rows that there are. -/
structure Settled (app : App) : Prop where
  fresh : app.table.Fresh app.follower.lines
  inBounds : app.view.InBounds
  count : app.view.rowCount ≤ app.rowCount

/-- A table that is fresh and says that everything may be different settles a viewer, whatever it was like. -/
theorem settled_of_reset (app : App) {table : Table} (h : table.Fresh app.follower.lines) (view : View) :
    Settled { app with table, view := view.notice .reset app.rowCount } where
  fresh := h
  inBounds := View.inBounds_notice_reset _ _
  count := Nat.le_of_eq (View.rowCount_notice _ _ _)

theorem settled_install (app : App) (f : Format) : (app.install f).value.Settled :=
  app.settled_of_reset (app.table.fresh_setFormat f app.follower.lines) _

theorem rowCount_install (app : App) (f : Format) :
    (app.install f).value.view.rowCount = (app.install f).value.rowCount :=
  View.rowCount_notice _ _ _

theorem settled_ofFormat (config : Config) (follower : Follower) (width height : Nat) (f : Format) :
    (ofFormat config follower width height f).value.Settled :=
  settled_of_reset (ofFormat config follower width height f).value (Table.fresh_setFormat {} f follower.lines) _

theorem start_ok {config : Config} {disk : Disk} {width height : Nat} {app : App}
    (h : (start config disk width height).value = .ok app) :
    ∃ follower f, (startFormat config disk).value = .ok f ∧
      app = (ofFormat config follower width height f).value := by
  unfold start at h
  split at h
  · cases h
  · rename_i follower hopen
    simp only [Logged.value_bind] at h
    split at h
    · cases h
    · rename_i f hf
      simp only [Logged.value_bind, Logged.value_pure, Except.ok.injEq] at h
      exact ⟨follower, f, hf, h.symm⟩

theorem settled_receive_reset {c : LineChange} (h : c.grows = false) (app : App) :
    (app.receive (.lines c)).value.Settled := by
  simp only [receive, Logged.value_bind, Logged.value_pure, Table.notice_not_grows h]
  exact app.settled_of_reset (app.table.fresh_reset app.follower.lines) _

theorem Settled.receive_growth {app : App} (h : app.Settled) {c : LineChange} (hc : c.grows = true) :
    (app.receive (.lines c)).value.Settled := by
  have hfresh := Table.fresh_notice h.fresh c
  simp only [Table.notice_grows hc] at hfresh
  simp only [receive, Logged.value_bind, Logged.value_pure, Table.notice_grows hc]
  exact ⟨hfresh, h.inBounds.notice_inserted h.count c.old c.new, Nat.le_of_eq (View.rowCount_notice _ _ _)⟩

theorem rowCount_receive (app : App) (c : LineChange) :
    (app.receive (.lines c)).value.view.rowCount = (app.receive (.lines c)).value.rowCount :=
  View.rowCount_notice _ _ _

/-- Lines behind the others leave a viewer settled that has not been told of them. -/
theorem Settled.append {app : App} (h : app.Settled) (follower : Follower) {more : Lines}
    (hm : follower.lines = app.follower.lines ++ more) : Settled { app with follower } where
  fresh := by
    rw [hm]
    exact h.fresh.append more
  inBounds := h.inBounds
  count := by
    show app.view.rowCount ≤ follower.lines.size
    have hc : app.view.rowCount ≤ app.follower.lines.size := h.count
    rw [hm, Array.size_append]
    omega

theorem Settled.say {app : App} (h : app.Settled) (message : Notice) : (app.say message).Settled :=
  ⟨h.fresh, h.inBounds, h.count⟩

/-- Loading the format again leaves a word on it, and another format if there is one. -/
theorem reload_value (app : App) (disk : Disk) :
    (∃ message, (app.reload disk).value = app.say message) ∨
      ∃ f, (app.reload disk).value = (app.install f).value.say .formatReloaded := by
  unfold reload
  split
  · exact .inl ⟨_, rfl⟩
  · rename_i path hp
    simp only [Logged.value_bind]
    cases (Format.load disk path).value with
    | ok f => exact .inr ⟨f, rfl⟩
    | error why => exact .inl ⟨_, rfl⟩

theorem act_of_ne (app : App) (disk : Disk) {a : Action} (h : a ≠ .reload) :
    app.act disk a = pure { app with view := moveView app.view a } := by
  cases a with
  | reload => exact absurd rfl h
  | scroll | pageDown | pageUp | toStart | toEnd | toggleAuto | resize | quit => rfl

theorem Settled.moveView {app : App} (h : app.Settled) (a : Action) :
    Settled { app with view := App.moveView app.view a } where
  fresh := h.fresh
  inBounds := h.inBounds.moveView a
  count := by
    show (App.moveView app.view a).rowCount ≤ app.rowCount
    rw [View.rowCount_moveView]
    exact h.count

/-- A viewer that follows is at the end after all news but that a format could not be loaded. -/
theorem receive_of_auto {app : App} (h : app.view.auto = true) {e : Finding}
    (he : ∀ why, e ≠ .formatFault why) :
    (app.receive e).value.view.top = (app.receive e).value.view.maxTop ∧
      (app.receive e).value.view.rowCount = (app.receive e).value.rowCount := by
  cases e with
  | lines c => exact ⟨View.top_notice_of_auto h _ _, app.rowCount_receive c⟩
  | format f =>
    have htop := View.top_notice_of_auto (v := { app.view with formatName := f.name }) h .reset app.rowCount
    exact ⟨htop, app.rowCount_install f⟩
  | formatFault why => exact absurd rfl (he why)

/-- What a settled viewer that counts all lines draws. -/
theorem snapshot_eq {app : App} {f : Format} (h : app.Settled) (hf : app.table.format = some f)
    (hc : app.view.rowCount = app.rowCount) :
    app.snapshot.value.1 =
      app.sheet.shot f app.view.top (min (app.view.top + app.view.page) app.rowCount) := by
  have hstop : app.view.stop = min (app.view.top + app.view.page) app.rowCount := by
    rw [View.stop, hc]
  have hle : app.view.stop ≤ app.rowCount := hstop ▸ Nat.min_le_right _ _
  have hcap : min app.view.stop app.follower.lines.size = app.view.stop := Nat.min_eq_left hle
  have hrows : (List.range' app.view.top (app.view.stop - app.view.top)).filterMap app.sheet.row? =
      (List.range' app.view.top (app.view.stop - app.view.top)).map (app.sheet.cells f) := by
    refine List.filterMap_eq_map_iff_forall_eq_some.2 fun row hrow => Sheet.row?_eq_some hf ?_
    rw [List.mem_range'_1] at hrow
    show row < app.rowCount
    omega
  simp only [snapshot, Snapshot.capture, Logged.value_bind, Logged.value_pure, hcap, h.inBounds.start_eq,
    (Table.rows_answers h.fresh _).value]
  rw [Sheet.shot, ← hstop, ← hrows, Table.columns_of_format hf]
  rfl

end App

/-! ## One step -/

/-- News of lines gives the lines there are now. -/
theorem Watch.told_of_pollLogAcross (f : Follower) (first then' : Disk) :
    ∃ changes, Told f.lines (Watch.pollLogAcross f first then').value.1.lines changes ∧
      (Watch.pollLogAcross f first then').value.2 = changes.map .lines := by
  unfold pollLogAcross
  simp only [Logged.value_bind]
  cases h : (f.refreshAcross first then').value with
  | error why => exact ⟨[], .same rfl, rfl⟩
  | ok r => exact ⟨r.2, (Follower.looked_of_refreshAcross h).told, rfl⟩

namespace Live

structure Sound (s : Live) : Prop where
  format : ∃ f, s.app.table.format = some f
  settled : (∀ c, .lines c ∈ s.queue → c.grows = true) → s.app.Settled
  count : (∀ c, .lines c ∉ s.queue) → s.app.view.rowCount = s.app.rowCount

/-- The more findings wait, the less has to hold. -/
theorem Sound.found {s : Live} (h : s.Sound) (more : List Finding) :
    Sound { s with queue := s.queue ++ more } where
  format := h.format
  settled := fun hall => h.settled fun c hc => hall c (List.mem_append_left _ hc)
  count := fun hno => h.count fun c hc => hno c (List.mem_append_left _ hc)

theorem sound_watchLog {s : Live} (h : s.Sound) (first then' : Disk) : (s.watchLog first then').Sound := by
  obtain ⟨changes, htold, hfound⟩ := Watch.told_of_pollLogAcross s.app.follower first then'
  unfold watchLog
  simp only [hfound]
  generalize (Watch.pollLogAcross s.app.follower first then').value.1 = g at htold
  have hmore := h.found (changes.map .lines)
  cases htold with
  | same hsame =>
    refine ⟨hmore.format, fun hall => ?_, fun hno => ?_⟩
    · exact (hmore.settled hall).append g (hsame.trans Array.append_empty.symm)
    · rw [App.rowCount, hsame]
      exact hmore.count hno
  | grown more _ hnew =>
    refine ⟨hmore.format, fun hall => (hmore.settled hall).append g hnew, fun hno => ?_⟩
    exact absurd (List.mem_append_right _ List.mem_cons_self) (hno _)
  | replaced =>
    -- the first of the changes is no growth, so nothing need hold until it has been taken up
    refine ⟨hmore.format, fun hall => ?_, fun hno => ?_⟩
    · have hgrows := hall _ (List.mem_append_right _ List.mem_cons_self)
      simp [LineChange.grows] at hgrows
    · exact absurd (List.mem_append_right _ List.mem_cons_self) (hno _)

theorem sound_watchFormat {s : Live} (h : s.Sound) (first then' : Disk) :
    (s.watchFormat first then').Sound := by
  unfold watchFormat
  split
  · exact h
  · rename_i stamp _
    have hmore := h.found (stamp.pollAcross first then').value.2
    exact ⟨hmore.format, hmore.settled, hmore.count⟩

theorem lines_mem_of_formatFault {why : ReloadFault} {c : LineChange} {rest : List Finding}
    (h : .lines c ∈ .formatFault why :: rest) : .lines c ∈ rest := by
  rcases List.mem_cons.1 h with he | hc
  · cases he
  · exact hc

theorem sound_receive {s : Live} (h : s.Sound) : s.receive.Sound := by
  obtain ⟨app, stamp, queue⟩ := s
  cases queue with
  | nil => exact h
  | cons e rest =>
    cases e with
    | lines c =>
      refine ⟨?_, fun hall => ?_, fun _ => app.rowCount_receive c⟩
      · obtain ⟨f, hf⟩ := h.format
        exact ⟨f, (app.table.format_notice c).trans hf⟩
      · cases hc : c.grows with
        | true =>
          refine App.Settled.receive_growth (h.settled fun c' hc' => ?_) hc
          rcases List.mem_cons.1 hc' with he | hc'
          · cases he
            exact hc
          · exact hall c' hc'
        | false => exact App.settled_receive_reset hc app
    | format f =>
      exact ⟨⟨f, rfl⟩, fun _ => (app.settled_install f).say .formatReloaded, fun _ => app.rowCount_install f⟩
    | formatFault why =>
      refine ⟨h.format, fun hall => ?_, fun hno => ?_⟩
      · exact (h.settled fun c hc => hall c (lines_mem_of_formatFault hc)).say _
      · exact h.count fun c hc => hno c (lines_mem_of_formatFault hc)

theorem sound_act {s : Live} (h : s.Sound) (disk : Disk) (a : Action) : (s.step (.act disk a)).Sound := by
  by_cases ha : a = .reload
  · subst ha
    rcases s.app.reload_value disk with ⟨message, he⟩ | ⟨f, he⟩
    · simp only [step, App.act, he]
      exact ⟨h.format, fun hall => (h.settled hall).say message, h.count⟩
    · simp only [step, App.act, he]
      exact ⟨⟨f, rfl⟩, fun _ => (s.app.settled_install f).say _, fun _ => s.app.rowCount_install f⟩
  · simp only [step, s.app.act_of_ne disk ha]
    refine ⟨h.format, fun hall => (h.settled hall).moveView a, fun hno => ?_⟩
    exact (View.rowCount_moveView _ a).trans (h.count hno)

theorem sound_snapshot {s : Live} (h : s.Sound) : (s.step .snapshot).Sound := by
  refine ⟨?_, fun hall => ?_, h.count⟩
  · obtain ⟨f, hf⟩ := h.format
    exact ⟨f, (s.app.table.format_rows _ _).trans hf⟩
  · have hs := h.settled hall
    exact ⟨(Table.rows_answers hs.fresh _).fresh, hs.inBounds, hs.count⟩

/-- A frame is a snapshot, after which the message is gone. -/
theorem sound_frame {s : Live} (h : s.Sound) : (s.step .frame).Sound := by
  have hs := sound_snapshot h
  refine ⟨hs.format, fun hall => ?_, hs.count⟩
  have hset := hs.settled hall
  exact ⟨hset.fresh, hset.inBounds, hset.count⟩

theorem sound_step {s : Live} (h : s.Sound) (m : Move) : (s.step m).Sound := by
  cases m with
  | watchLog first then' => exact sound_watchLog h first then'
  | watchFormat first then' => exact sound_watchFormat h first then'
  | receive => exact sound_receive h
  | act disk a => exact sound_act h disk a
  | snapshot => exact sound_snapshot h
  | frame => exact sound_frame h

/-! ## Whole runs -/

theorem sound_start {config : Config} {disk : Disk} {width height : Nat} {app : App} (stamp : Option Stamp)
    (h : (App.start config disk width height).value = .ok app) : Sound { app, stamp } := by
  obtain ⟨follower, f, -, rfl⟩ := App.start_ok h
  exact ⟨⟨f, rfl⟩, fun _ => App.settled_ofFormat config follower width height f,
    fun _ => View.rowCount_notice _ _ _⟩

theorem sound_reachable {s : Live} (h : s.Reachable) : s.Sound := by
  induction h with
  | start stamp hs => exact sound_start stamp hs
  | next m _ ih => exact sound_step ih m

/-- **The screen converges.** Once everything that was found has been taken up, in whatever order the watch, the
user and the drawing took turns: the view counts all lines and is in bounds, every row that is kept is that of
its line under the format there is, and what is drawn is worked out from nothing but the lines and the format.
A view that follows is at the last row after each news of lines or of a format. -/
theorem converges {s : Live} (h : s.Reachable) :
    (s.queue = [] → ∃ f, s.app.table.format = some f ∧
      s.app.view.rowCount = s.app.follower.lines.size ∧ s.app.view.top ≤ s.app.view.maxTop ∧
      (∀ row line, s.app.table.kept? row = some line →
        ∃ raw, s.app.follower.lines[row]? = some raw ∧ line = Line.read f raw) ∧
      s.app.snapshot.value.1 = Sheet.shot ⟨some f, s.app.follower.lines⟩ f s.app.view.top
        (min (s.app.view.top + s.app.view.page) s.app.follower.lines.size)) ∧
    (∀ e rest, s.queue = e :: rest → (∀ why, e ≠ .formatFault why) → s.app.view.auto = true →
      let after := (s.step .receive).app
      after.view.top = after.view.maxTop ∧ after.view.rowCount = after.follower.lines.size ∧
        after.view.stop = after.follower.lines.size) := by
  have hs := sound_reachable h
  refine ⟨fun hq => ?_, fun e rest hq he hauto => ?_⟩
  · obtain ⟨f, hf⟩ := hs.format
    have hnone : ∀ c, .lines c ∉ s.queue := by
      intro c hc
      rw [hq] at hc
      cases hc
    have hset : s.app.Settled := hs.settled fun c hc => absurd hc (hnone c)
    have hcount := hs.count hnone
    refine ⟨f, hf, hcount, hset.inBounds, fun row line hk => ?_, ?_⟩
    · exact Sheet.line?_eq_some hf (hset.fresh row line hk)
    · rw [App.snapshot_eq hset hf hcount, App.sheet, Table.sheet, hf]
      rfl
  · have hafter : (s.step .receive).app = (s.app.receive e).value := by
      simp only [step, receive, hq]
    simp only [hafter]
    obtain ⟨htop, hcount⟩ := s.app.receive_of_auto hauto he
    refine ⟨htop, hcount, ?_⟩
    rw [View.stop_of_top_eq htop, hcount]
    rfl

/-- A log of two lines. -/
def shortLog : Disk := ({} : Disk).rotate "app.log" [97, 10, 98, 10]

def opened : Live :=
  { app := (App.ofFormat { logPath := "app.log" } (.ofFile "app.log" ⟨0, [97, 10, 98, 10], 0⟩) 80 3
      Format.plain.value).value
    stamp := none }

/-- A line comes and another file takes the place of the log; in between the screen is drawn and changes its
size, and the view is made to follow. -/
def turns : List Move :=
  let grown := shortLog.append "app.log" [99, 10]
  let other := grown.rotate "app.log" [100, 10, 101]
  [.snapshot, .act {} .toggleAuto, .watchLog grown grown, .frame, .receive, .watchLog grown other,
    .watchLog other other, .snapshot, .act {} (.resize 80 4), .receive, .frame, .act {} (.scroll .up 1), .receive]

def afterTurns : Live := turns.foldl step opened

theorem reachable_foldl {s : Live} (h : s.Reachable) (moves : List Move) : (moves.foldl step s).Reachable := by
  induction moves generalizing s with
  | nil => exact h
  | cons m moves ih => exact ih (.next m h)

theorem converges_afterTurns : afterTurns.Reachable ∧ afterTurns.queue = [] ∧
    ∃ f, afterTurns.app.table.format = some f ∧
      afterTurns.app.snapshot.value.1 =
        Sheet.shot ⟨some f, afterTurns.app.follower.lines⟩ f afterTurns.app.view.top
          (min (afterTurns.app.view.top + afterTurns.app.view.page) afterTurns.app.follower.lines.size) := by
  have hstart : (App.start { logPath := "app.log" } shortLog 80 3).value = .ok opened.app := rfl
  have hr : afterTurns.Reachable := reachable_foldl (.start none hstart) turns
  have hq : afterTurns.queue = [] := List.isEmpty_iff.1 (by decide +kernel)
  obtain ⟨f, hf, -, -, -, hshot⟩ := (converges hr).1 hq
  exact ⟨hr, hq, f, hf, hshot⟩

end Live

end LogTable
