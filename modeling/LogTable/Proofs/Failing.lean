import LogTable.Proofs.Convergence

/-!
# What fails leaves no trace

A look at the log file fails if there is no file at its path, or none any more by the time it is to be read. Loading
the format again fails if there is no format file, or if no format can be had from it, whatever is wrong with it; if
the watch came upon that it is told as a finding. `App.Fails` lists what can fail, and `App.fails_refresh_iff` says
when a look does.

After each of them the viewer is what it was, but for the message. From there on it does what it would have done
without: nothing that can be asked of a viewer depends on the message (`App.perform_withMessage`), and so no run does
(`App.run_withMessage`). The records are the same, too.

Results: `App.failure_leaves_no_trace`.
-/
namespace LogTable

namespace Follower

/-- A look fails if nothing is at the path, or if there is something to be read and no file when it is read. -/
theorem refreshAcross_error_iff (f : Follower) (first then' : Disk) :
    (∃ why, (f.refreshAcross first then').value = .error why) ↔
      ∀ node, first.read f.path = .ok node → f.plan node ≠ .idle ∧ then'.file? f.path = none := by
  unfold refreshAcross
  cases hfirst : first.read f.path with
  | error cause => simp
  | ok node =>
    simp only [Except.ok.injEq, forall_eq']
    cases hp : f.plan node with
    | idle => simp
    | reload =>
      unfold reload Disk.file?
      cases hthen : then'.read f.path with
      | error cause => simp
      | ok node' => cases node' <;> simp
    | readTail =>
      unfold readTail Disk.file?
      cases hthen : then'.read f.path with
      | error cause => simp
      | ok node' => cases node' <;> simp

end Follower

/-! ## What can be asked of a viewer -/

namespace App

inductive Task
  /-- The watch looks at the log file, which may change between the look and the reading. -/
  | refresh (first then' : Disk)
  | receive (e : Finding)
  | act (disk : Disk) (a : Action)
  | snapshot
  | frame

inductive Answer
  /-- What the watch has found and will tell. -/
  | found (findings : List Finding)
  | snapshot (s : Snapshot)
  | frame (f : Frame)
  | done

def perform (app : App) : Task → Logged (Answer × App)
  | .refresh first then' => do
    let (follower, found) ← Watch.pollLogAcross app.follower first then'
    return (.found found, { app with follower })
  | .receive e => do return (.done, ← app.receive e)
  | .act disk a => do return (.done, ← app.act disk a)
  | .snapshot => do
    let (s, app) ← app.snapshot
    return (.snapshot s, app)
  | .frame => do
    let (f, app) ← app.frame
    return (.frame f, app)

def run (app : App) : List Task → Logged (List Answer × App)
  | [] => pure ([], app)
  | t :: rest => do
    let (answer, app) ← app.perform t
    let (answers, app) ← app.run rest
    return (answer :: answers, app)

/-! ## Without the message -/

/-- Another message in place of the one there is, or none. -/
def withMessage (app : App) (message : Option Notice) : App := { app with view := { app.view with message } }

/-- A frame without its message; nothing else in an answer has one. -/
def Answer.wordless : Answer → Answer
  | .frame f => .frame { f with view := { f.view with message := none } }
  | answer => answer

def wordless (app : App) : App := app.withMessage none

end App

namespace View

theorem settle_withMessage (v : View) (message : Option Notice) :
    ({ v with message } : View).settle = { v.settle with message } := by
  unfold settle
  simp only
  split <;> rfl

theorem notice_withMessage (v : View) (message : Option Notice) (e : TableEvent) (rowCount : Nat) :
    ({ v with message } : View).notice e rowCount = { v.notice e rowCount with message } := by
  cases e with
  | reset => exact settle_withMessage { v with rowCount } message
  | inserted start stop =>
    unfold notice
    simp only
    split <;> rfl

theorem resize_withMessage (v : View) (message : Option Notice) (width height : Nat) :
    ({ v with message } : View).resize width height = { v.resize width height with message } := by
  unfold resize
  simp only
  split
  · rfl
  · exact settle_withMessage { v with width, height } message

end View

namespace App

theorem moveView_withMessage (v : View) (message : Option Notice) (a : Action) :
    ∃ message', moveView { v with message } a = { moveView v a with message := message' } := by
  cases a with
  | scroll direction n => cases direction <;> exact ⟨message, rfl⟩
  | toggleAuto =>
    refine ⟨(moveView v .toggleAuto).message, ?_⟩
    unfold moveView View.toggleAuto
    simp only
    split <;> rfl
  | resize width height => exact ⟨message, v.resize_withMessage message width height⟩
  | pageDown | pageUp | toStart | toEnd | reload | quit => exact ⟨message, rfl⟩

theorem install_withMessage (app : App) (message : Option Notice) (f : Format) :
    ((app.withMessage message).install f).value = ((app.install f).value).withMessage message := by
  have hview := View.notice_withMessage { app.view with formatName := f.name } message .reset app.rowCount
  simp only [install, withMessage, Logged.value_bind, Logged.value_pure] at hview ⊢
  rw [← hview]
  rfl

/-- Two outcomes that differ in messages at most. -/
structure Alike (strip : α → α) (x y : Logged (α × App)) : Prop where
  answer : strip x.value.1 = strip y.value.1
  app : ∃ message, x.value.2 = y.value.2.withMessage message
  records : x.records = y.records

theorem receive_withMessage (app : App) (message : Option Notice) (e : Finding) :
    (∃ message', ((app.withMessage message).receive e).value = (app.receive e).value.withMessage message') ∧
      ((app.withMessage message).receive e).records = (app.receive e).records := by
  cases e with
  | lines c =>
    refine ⟨⟨message, ?_⟩, rfl⟩
    have hview := View.notice_withMessage app.view message (app.table.notice c).value.2 app.rowCount
    simp only [receive, withMessage, Logged.value_bind, Logged.value_pure] at hview ⊢
    rw [← hview]
    rfl
  | format f =>
    refine ⟨⟨some .formatReloaded, ?_⟩, rfl⟩
    simp only [receive, Logged.value_bind, Logged.value_pure, install_withMessage]
    rfl
  | formatFault why => exact ⟨⟨_, rfl⟩, rfl⟩

theorem reload_withMessage (app : App) (message : Option Notice) (disk : Disk) :
    (∃ message', ((app.withMessage message).reload disk).value = (app.reload disk).value.withMessage message') ∧
      ((app.withMessage message).reload disk).records = (app.reload disk).records := by
  have hpath : (app.withMessage message).config.formatPath = app.config.formatPath := rfl
  unfold reload
  rw [hpath]
  cases app.config.formatPath with
  | none => exact ⟨⟨some .noFormatFile, rfl⟩, rfl⟩
  | some path =>
    simp only [Logged.value_bind, Logged.records_bind]
    cases (Format.load disk path).value with
    | ok f =>
      refine ⟨⟨some .formatReloaded, ?_⟩, rfl⟩
      simp only [Logged.value_bind, Logged.value_pure, install_withMessage]
      rfl
    | error why => exact ⟨⟨some (.reloadFailed (.failure why)), rfl⟩, rfl⟩

theorem act_withMessage (app : App) (message : Option Notice) (disk : Disk) (a : Action) :
    (∃ message', ((app.withMessage message).act disk a).value = (app.act disk a).value.withMessage message') ∧
      ((app.withMessage message).act disk a).records = (app.act disk a).records := by
  by_cases ha : a = .reload
  · subst ha
    exact app.reload_withMessage message disk
  · rw [act_of_ne _ disk ha, act_of_ne _ disk ha]
    obtain ⟨message', hview⟩ := moveView_withMessage app.view message a
    refine ⟨⟨message', ?_⟩, rfl⟩
    simp only [withMessage, Logged.value_pure] at hview ⊢
    rw [hview]

/-- Nothing that can be asked depends on the message. -/
theorem perform_withMessage (app : App) (message : Option Notice) (t : Task) :
    Alike Answer.wordless ((app.withMessage message).perform t) (app.perform t) := by
  cases t with
  | refresh first then' => exact ⟨rfl, ⟨message, rfl⟩, rfl⟩
  | receive e =>
    obtain ⟨happ, hrecords⟩ := app.receive_withMessage message e
    exact ⟨rfl, happ, congrArg (· ++ []) hrecords⟩
  | act disk a =>
    obtain ⟨happ, hrecords⟩ := app.act_withMessage message disk a
    exact ⟨rfl, happ, congrArg (· ++ []) hrecords⟩
  | snapshot => exact ⟨rfl, ⟨message, rfl⟩, rfl⟩
  | frame => exact ⟨rfl, ⟨none, rfl⟩, rfl⟩

/-- The induction is on the tasks; a task may leave either viewer any message. -/
theorem run_withMessage (app : App) (message : Option Notice) (tasks : List Task) :
    Alike (List.map Answer.wordless) ((app.withMessage message).run tasks) (app.run tasks) := by
  induction tasks generalizing app message with
  | nil => exact ⟨rfl, ⟨message, rfl⟩, rfl⟩
  | cons t rest ih =>
    obtain ⟨hanswer, ⟨message', happ⟩, hrecords⟩ := app.perform_withMessage message t
    obtain ⟨hanswers, happ', hrecords'⟩ := ih (app.perform t).value.2 message'
    rw [← happ] at hanswers happ' hrecords'
    refine ⟨?_, happ', ?_⟩
    · simp only [run, Logged.value_bind, Logged.value_pure, List.map_cons, hanswer, hanswers]
    · simp only [run, Logged.records_bind, Logged.records_pure, hrecords, hrecords']

/-! ## Failures -/

/-- The tasks that fail. -/
inductive Fails (app : App) : Task → Prop
  | refresh {first then' : Disk} {why : Failure} :
    (app.follower.refreshAcross first then').value = .error why → Fails app (.refresh first then')
  /-- The watch could not load the format. -/
  | formatFault (why : ReloadFault) : Fails app (.receive (.formatFault why))
  | noFormatFile (disk : Disk) : app.config.formatPath = none → Fails app (.act disk .reload)
  | reload {disk : Disk} {path : String} {why : Failure} :
    app.config.formatPath = some path → (Format.load disk path).value = .error why → Fails app (.act disk .reload)

theorem fails_refresh_iff (app : App) (first then' : Disk) :
    Fails app (.refresh first then') ↔
      ∀ node, first.read app.follower.path = .ok node →
        app.follower.plan node ≠ .idle ∧ then'.file? app.follower.path = none := by
  rw [← Follower.refreshAcross_error_iff]
  constructor
  · rintro ⟨h⟩
    exact ⟨_, h⟩
  · rintro ⟨why, h⟩
    exact .refresh h

/-- Without a file at the path a look fails, be there a directory or nothing. -/
theorem fails_refresh_of_noFile {app : App} {disk : Disk} (h : disk.file? app.follower.path = none) :
    Fails app (.refresh disk disk) := by
  refine (app.fails_refresh_iff disk disk).2 fun node hnode => ⟨fun hidle => ?_, h⟩
  cases node with
  | directory => cases hidle
  | file file =>
    rw [Disk.file?_eq_some_iff.2 hnode] at h
    cases h

/-- A failure leaves nothing but a message, and nothing to be told. -/
theorem perform_of_fails {app : App} {t : Task} (h : Fails app t) :
    (∃ message, (app.perform t).value.2 = app.withMessage message) ∧
      ∀ findings, (app.perform t).value.1 = .found findings → findings = [] := by
  cases h with
  | refresh hwhy =>
    simp only [perform, Watch.pollLogAcross, Logged.value_bind, hwhy]
    exact ⟨⟨app.view.message, rfl⟩, fun findings hfound => (Answer.found.inj hfound).symm⟩
  | formatFault why => exact ⟨⟨some (.reloadFailed why), rfl⟩, fun _ hfound => by cases hfound⟩
  | noFormatFile disk hnone =>
    refine ⟨⟨some .noFormatFile, ?_⟩, fun _ hfound => by cases hfound⟩
    simp only [perform, act, reload, hnone]
    rfl
  | reload hsome hwhy =>
    rename_i disk path why
    refine ⟨⟨some (.reloadFailed (.failure why)), ?_⟩, fun _ hfound => by cases hfound⟩
    simp only [perform, act, reload, hsome, Logged.value_bind, hwhy]
    rfl

/-- **What fails leaves no trace.** Let anything fail that can fail, in any viewer. The lines and what is known of
their file, the format and the rows that are kept, and the view but for its message are as before, and no change of
the lines is told. Whatever is asked of the viewer later, it gives the answers that it would have given without,
frames apart from their messages, it makes the same records, and it ends up as it would have, but for the message. -/
theorem failure_leaves_no_trace {app : App} {t : Task} (h : Fails app t) :
    let after := (app.perform t).value.2
    (∃ message, after = { app with view := { app.view with message } }) ∧
    (∀ findings, (app.perform t).value.1 = .found findings → findings = []) ∧
    ∀ later : List Task,
      (after.run later).value.1.map Answer.wordless = (app.run later).value.1.map Answer.wordless ∧
      (after.run later).value.2.wordless = (app.run later).value.2.wordless ∧
      (after.run later).records = (app.run later).records := by
  intro after
  obtain ⟨⟨message, hafter⟩, hfound⟩ := perform_of_fails h
  refine ⟨⟨message, hafter⟩, hfound, fun later => ?_⟩
  obtain ⟨hanswers, ⟨message', happ⟩, hrecords⟩ := app.run_withMessage message later
  rw [← hafter] at hanswers happ hrecords
  refine ⟨hanswers, ?_, hrecords⟩
  rw [happ]
  rfl

/-- A directory where the log was. -/
def displaced : Disk := Live.shortLog.mkdir "app.log"

/-- A log is there again, another one, and the viewer is told of it. -/
def restored : List Task :=
  let other := displaced.rotate "app.log" [100, 10]
  [.act {} .reload, .refresh other other, .receive (.lines ⟨0, 2⟩), .receive (.lines ⟨1, 0⟩), .frame]

theorem failure_leaves_no_trace_displaced :
    let failed := (Live.opened.app.perform (.refresh displaced displaced)).value.2
    Fails Live.opened.app (.refresh displaced displaced) ∧
      (failed.run restored).value.2.follower.lines.toList = ["d"] ∧
      (failed.run restored).value.1.map Answer.wordless =
        (Live.opened.app.run restored).value.1.map Answer.wordless := by
  have hnone : displaced.file? Live.opened.app.follower.path = none := by decide +kernel
  have hfails : Fails Live.opened.app (.refresh displaced displaced) := fails_refresh_of_noFile hnone
  have hlater := (failure_leaves_no_trace hfails).2.2 restored
  exact ⟨hfails, by decide +kernel, hlater.1⟩

end App

end LogTable
