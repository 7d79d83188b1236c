import LogTable.Proofs.Convergence

/-!
# Which format is shown

A viewer shows a log under a format and gives a name for it (`App.showing`). Of what moves a viewer only two things
change that: a format among what the watch found, when it is taken up (`App.showing_receive`), and loading that
succeeds (`App.showing_reload`).

With findings in the queue it is settled already what the viewer will show once it has taken them up: the last format
among them, or what it shows if there is none (`Live.due`). Taking one up does not change that (`Live.due_receive`),
nor does news of lines (`Live.due_watchLog`).
-/
namespace LogTable

namespace View

theorem formatName_settle (v : View) : v.settle.formatName = v.formatName := by
  unfold settle
  split <;> rfl

theorem formatName_notice (v : View) (e : TableEvent) (rowCount : Nat) :
    (v.notice e rowCount).formatName = v.formatName := by
  cases e with
  | reset => exact formatName_settle _
  | inserted start stop =>
    unfold notice
    simp only
    split <;> rfl

theorem formatName_moveView (v : View) (a : Action) : (App.moveView v a).formatName = v.formatName := by
  cases a with
  | scroll direction n => cases direction <;> rfl
  | toggleAuto =>
    show v.toggleAuto.formatName = v.formatName
    unfold toggleAuto
    simp only
    split <;> rfl
  | resize width height =>
    show (v.resize width height).formatName = v.formatName
    unfold resize
    split
    · rfl
    · exact formatName_settle _
  | pageDown | pageUp | toStart | toEnd | reload | quit => rfl

end View

/-- What becomes of the format and of its name when a finding is taken up. -/
def Finding.turn (shown : Option Format × String) : Finding → Option Format × String
  | .format f => (some f, f.name)
  | .lines _ | .formatFault _ => shown

theorem Finding.foldl_turn_of_quiet {queue : List Finding} (h : ∀ f, .format f ∉ queue)
    (shown : Option Format × String) : queue.foldl Finding.turn shown = shown := by
  induction queue with
  | nil => rfl
  | cons e rest ih =>
    have hrest := ih fun f hf => h f (List.mem_cons_of_mem e hf)
    cases e with
    | lines c => exact hrest
    | format f => exact absurd List.mem_cons_self (h f)
    | formatFault why => exact hrest

/-- Findings bring a format or leave the one there is, so to take them up again changes nothing. -/
theorem Finding.foldl_turn_idem (queue : List Finding) (shown : Option Format × String) :
    queue.foldl Finding.turn (queue.foldl Finding.turn shown) = queue.foldl Finding.turn shown := by
  induction queue with
  | nil => rfl
  | cons e rest ih =>
    cases e with
    | lines c => exact ih
    | format f => rfl
    | formatFault why => exact ih

namespace App

/-- The format that the log is shown under, and the name that is given for it. -/
def showing (app : App) : Option Format × String := (app.table.format, app.view.formatName)

theorem showing_install (app : App) (f : Format) : (app.install f).value.showing = (some f, f.name) :=
  congrArg (Prod.mk (some f)) (View.formatName_notice { app.view with formatName := f.name } .reset app.rowCount)

theorem showing_receive (app : App) (e : Finding) : (app.receive e).value.showing = e.turn app.showing := by
  cases e with
  | lines c =>
    exact Prod.ext (app.table.format_notice c) (app.view.formatName_notice _ app.rowCount)
  | format f => exact app.showing_install f
  | formatFault why => rfl

theorem showing_moveView (app : App) (a : Action) :
    showing { app with view := moveView app.view a } = app.showing :=
  congrArg (Prod.mk app.table.format) (app.view.formatName_moveView a)

theorem showing_snapshot (app : App) : app.snapshot.value.2.showing = app.showing :=
  congrArg (·, app.view.formatName) (app.table.format_rows _ _)

theorem showing_reload {app : App} {disk : Disk} {path : String} {f : Format}
    (hp : app.config.formatPath = some path) (h : (Format.load disk path).value = .ok f) :
    (app.reload disk).value.showing = (some f, f.name) := by
  simp only [reload, hp, Logged.value_bind, h]
  exact app.showing_install f

theorem config_reload (app : App) (disk : Disk) : (app.reload disk).value.config = app.config := by
  rcases app.reload_value disk with ⟨message, he⟩ | ⟨f, he⟩ <;> rw [he] <;> rfl

theorem config_receive (app : App) (e : Finding) : (app.receive e).value.config = app.config := by
  cases e <;> rfl

end App

/-! ## What waits -/

namespace Live

/-- What the viewer will show once it has taken up what was found. -/
def due (s : Live) : Option Format × String := s.queue.foldl Finding.turn s.app.showing

/-- No format waits to be taken up. -/
def Quiet (s : Live) : Prop := ∀ f, .format f ∉ s.queue

theorem Quiet.due_eq {s : Live} (h : s.Quiet) : s.due = s.app.showing := Finding.foldl_turn_of_quiet h s.app.showing

theorem due_receive (s : Live) : s.receive.due = s.due := by
  unfold receive
  split
  · rfl
  · rename_i e rest hq
    simp only [due, hq, App.showing_receive, List.foldl_cons]

theorem config_receive (s : Live) : s.receive.app.config = s.app.config := by
  unfold receive
  split
  · rfl
  · exact s.app.config_receive _

theorem stamp_receive (s : Live) : s.receive.stamp = s.stamp := by
  unfold receive
  split <;> rfl

theorem Quiet.receive {s : Live} (h : s.Quiet) : s.receive.Quiet := by
  intro f hf
  unfold Live.receive at hf
  split at hf
  · exact h f hf
  · rename_i e rest hq
    exact h f (hq ▸ List.mem_cons_of_mem e hf)

theorem format_not_mem_map_lines (f : Format) (changes : List LineChange) :
    .format f ∉ changes.map Finding.lines := by
  simp

theorem due_watchLog (s : Live) (first then' : Disk) : (s.watchLog first then').due = s.due := by
  obtain ⟨changes, -, hfound⟩ := Watch.told_of_pollLogAcross s.app.follower first then'
  simp only [due, watchLog, hfound, List.foldl_append]
  exact Finding.foldl_turn_of_quiet (fun f => format_not_mem_map_lines f changes) _

theorem Quiet.watchLog {s : Live} (h : s.Quiet) (first then' : Disk) : (s.watchLog first then').Quiet := by
  obtain ⟨changes, -, hfound⟩ := Watch.told_of_pollLogAcross s.app.follower first then'
  intro f hf
  simp only [Live.watchLog, hfound] at hf
  rcases List.mem_append.1 hf with hf | hf
  · exact h f hf
  · exact format_not_mem_map_lines f changes hf

end Live

end LogTable
