import LogTable.Proofs.Convergence

/-!
# Growth that has been overtaken

News of growth leaves the first row on the screen where it is, since more rows only move the bound outwards. But the
lines change before the news of them is taken up. If the file has been cut short by then, the viewer counts the
rows that are left and goes on from a row that may be too far down for them: the view is out of bounds. News of
anything but growth makes the view settle, and so does another format.

Nothing else leads out of bounds (`Live.not_inBounds_step_iff`), and never does it for a view that follows
(`Live.inBounds_of_auto`). News of the lines that went still waits then (`Live.inBounds_of_growth`), so the view is in
bounds again once all has been taken up.

Results: `Live.in_bounds_unless_overtaken`, and `Live.overtaken_out_of_bounds` with a log that grows by one line
and is then replaced by a shorter one.
-/
namespace LogTable

namespace View

/-! ## Single events -/

theorem auto_notice (v : View) (e : TableEvent) (rowCount : Nat) : (v.notice e rowCount).auto = v.auto := by
  cases e with
  | reset =>
    unfold notice settle
    simp only
    split <;> rfl
  | inserted start stop =>
    unfold notice
    simp only
    split <;> rfl

/-- Of rows that came only a view that follows takes care. -/
theorem inBounds_notice_inserted_iff (v : View) (start stop rowCount : Nat) :
    (v.notice (.inserted start stop) rowCount).InBounds ↔ v.auto = true ∨ v.top ≤ rowCount - v.page := by
  unfold notice
  simp only
  split
  · rename_i hauto
    exact ⟨fun _ => .inl hauto, fun _ => inBounds_toEnd _⟩
  · rename_i hauto
    constructor
    · intro h
      exact .inr h
    · intro h
      exact h.resolve_left hauto

/-- A view that is made to follow is put in bounds. -/
theorem inBounds_moveView_of_auto {v : View} (h : v.auto = true → v.InBounds) (a : Action)
    (hauto : (App.moveView v a).auto = true) : (App.moveView v a).InBounds := by
  cases hv : v.auto with
  | true => exact (h hv).moveView a
  | false =>
    cases a with
    | toggleAuto =>
      simp only [App.moveView, toggleAuto, hv, Bool.not_false, if_true]
      exact inBounds_toEnd _
    | resize width height =>
      simp only [App.moveView, resize] at hauto ⊢
      split at hauto
      · simp [hv] at hauto
      · rename_i hne
        rw [if_neg hne]
        exact inBounds_settle _
    | scroll direction n => cases direction <;> simp [App.moveView, scrollDown, scrollUp, hv] at hauto
    | pageDown | pageUp | toStart | toEnd | reload | quit =>
      simp [App.moveView, pageDown, pageUp, scrollDown, scrollUp, toStart, toEnd, hv] at hauto

end View

/-- Findings that make the view settle. -/
def Finding.settles : Finding → Bool
  | .lines c => !c.grows
  | .format _ => true
  | .formatFault _ => false

namespace App

theorem inBounds_install (app : App) (f : Format) : (app.install f).value.view.InBounds :=
  View.inBounds_notice_reset _ _

theorem inBounds_receive_of_settles {e : Finding} (h : e.settles = true) (app : App) :
    (app.receive e).value.view.InBounds := by
  cases e with
  | lines c => exact (app.settled_receive_reset (by simpa [Finding.settles] using h)).inBounds
  | format f => exact app.inBounds_install f
  | formatFault why => cases h

theorem auto_receive (app : App) (e : Finding) : (app.receive e).value.view.auto = app.view.auto := by
  cases e with
  | lines c => exact View.auto_notice _ _ _
  | format f => exact View.auto_notice { app.view with formatName := f.name } .reset app.rowCount
  | formatFault why => rfl

theorem inBounds_receive_growth_iff {c : LineChange} (h : c.grows = true) (app : App) :
    (app.receive (.lines c)).value.view.InBounds ↔
      app.view.auto = true ∨ app.view.top ≤ app.rowCount - app.view.page := by
  simp only [receive, Logged.value_bind, Logged.value_pure, Table.notice_grows h]
  exact View.inBounds_notice_inserted_iff _ _ _ _

/-- An action moves the view, but for another format, with which it settles. -/
theorem view_act (app : App) (disk : Disk) (a : Action) :
    (∃ message, (app.act disk a).value.view = { moveView app.view a with message }) ∨
      (app.act disk a).value.view.InBounds := by
  by_cases ha : a = .reload
  · subst ha
    rcases app.reload_value disk with ⟨message, he⟩ | ⟨f, he⟩
    · refine .inl ⟨some message, ?_⟩
      simp only [act, he]
      rfl
    · refine .inr ?_
      simp only [act, he]
      exact app.inBounds_install f
  · rw [app.act_of_ne disk ha]
    exact .inl ⟨(moveView app.view a).message, rfl⟩

end App

namespace Live

/-- Growth waits at the front, but fewer rows are left than make up a page from the first row on the screen. -/
structure Overtaken (s : Live) : Prop where
  growth : ∃ c rest, s.queue = .lines c :: rest ∧ c.grows = true
  still : s.app.view.auto = false
  short : s.app.rowCount - s.app.view.page < s.app.view.top

/-! ## One step -/

theorem inBounds_act {s : Live} (h : s.app.view.InBounds) (disk : Disk) (a : Action) :
    (s.step (.act disk a)).app.view.InBounds := by
  rcases s.app.view_act disk a with ⟨message, hview⟩ | hin
  · simp only [step, hview]
    exact h.moveView a
  · exact hin

theorem view_watchFormat (s : Live) (first then' : Disk) : (s.watchFormat first then').app.view = s.app.view := by
  unfold watchFormat
  split <;> rfl

theorem not_inBounds_receive_iff {s : Live} (h : s.app.view.InBounds) :
    ¬ s.receive.app.view.InBounds ↔ s.Overtaken := by
  obtain ⟨app, stamp, queue⟩ := s
  constructor
  · intro hout
    cases queue with
    | nil => exact absurd h hout
    | cons e rest =>
      have hsettles : e.settles = false := by
        cases he : e.settles with
        | true => exact absurd (app.inBounds_receive_of_settles he) hout
        | false => rfl
      cases e with
      | lines c =>
        have hc : c.grows = true := by simpa [Finding.settles] using hsettles
        have hboth := mt (App.inBounds_receive_growth_iff hc app).2 hout
        obtain ⟨hauto, htop⟩ := not_or.1 hboth
        exact ⟨⟨c, rest, rfl, hc⟩, by simpa using hauto, Nat.not_le.1 htop⟩
      | format f => cases hsettles
      | formatFault why => exact absurd h hout
  · rintro ⟨⟨c, rest, hq, hc⟩, hauto, htop⟩ hin
    cases hq
    rcases (App.inBounds_receive_growth_iff hc app).1 hin with ht | hle
    · rw [hauto] at ht
      cases ht
    · exact Nat.not_le.2 htop hle

/-- The only step out of bounds. -/
theorem not_inBounds_step_iff {s : Live} (h : s.app.view.InBounds) (m : Move) :
    ¬ (s.step m).app.view.InBounds ↔ m = .receive ∧ s.Overtaken := by
  cases m with
  | receive =>
    have hstep : s.step .receive = s.receive := rfl
    simpa [hstep] using not_inBounds_receive_iff h
  | act disk a => simpa using inBounds_act h disk a
  | watchFormat first then' =>
    have hview := s.view_watchFormat first then'
    simpa [step, hview] using h
  | watchLog first then' =>
    have hview : (s.step (.watchLog first then')).app.view = s.app.view := rfl
    simpa [hview] using h
  | snapshot =>
    have hview : (s.step .snapshot).app.view = s.app.view := rfl
    simpa [hview] using h
  | frame =>
    have hin : (s.step .frame).app.view.InBounds := h
    simpa using hin

theorem inBounds_act_of_auto {s : Live} (h : s.app.view.auto = true → s.app.view.InBounds) (disk : Disk)
    (a : Action) (hauto : (s.step (.act disk a)).app.view.auto = true) :
    (s.step (.act disk a)).app.view.InBounds := by
  rcases s.app.view_act disk a with ⟨message, hview⟩ | hin
  · simp only [step, hview] at hauto ⊢
    exact View.inBounds_moveView_of_auto h a hauto
  · exact hin

/-- A view that follows is in bounds. -/
theorem inBounds_step_of_auto {s : Live} (h : s.app.view.auto = true → s.app.view.InBounds) (m : Move)
    (hauto : (s.step m).app.view.auto = true) : (s.step m).app.view.InBounds := by
  cases m with
  | receive =>
    obtain ⟨app, stamp, queue⟩ := s
    cases queue with
    | nil => exact h hauto
    | cons e rest =>
      have hin := h ((app.auto_receive e).symm.trans hauto)
      by_contra hout
      have hover := (not_inBounds_receive_iff hin).1 hout
      have hstill : app.view.auto = false := hover.still
      rw [← app.auto_receive e] at hstill
      exact Bool.false_ne_true (hstill.symm.trans hauto)
  | act disk a => exact inBounds_act_of_auto h disk a hauto
  | watchFormat first then' =>
    have hview : (s.step (.watchFormat first then')).app.view = s.app.view := s.view_watchFormat first then'
    rw [hview] at hauto ⊢
    exact h hauto
  | watchLog | snapshot | frame => exact h hauto

/-! ## Whole runs -/

theorem inBounds_of_auto {s : Live} (h : s.Reachable) : s.app.view.auto = true → s.app.view.InBounds := by
  induction h with
  | start stamp hs =>
    obtain ⟨follower, f, -, rfl⟩ := App.start_ok hs
    exact fun _ => (App.settled_ofFormat _ follower _ _ f).inBounds
  | next m _ ih => exact inBounds_step_of_auto ih m

theorem inBounds_of_growth {s : Live} (h : s.Reachable) (hall : ∀ c, .lines c ∈ s.queue → c.grows = true) :
    s.app.view.InBounds :=
  ((sound_reachable h).settled hall).inBounds

theorem queue_receives (s : Live) (n : Nat) :
    ((List.replicate n Move.receive).foldl step s).queue = s.queue.drop n := by
  induction n generalizing s with
  | zero => rfl
  | succ n ih =>
    have hqueue : s.receive.queue = s.queue.drop 1 := by
      unfold receive
      split
      · rename_i hq
        rw [hq]
        rfl
      · rename_i hq
        rw [hq]
        rfl
    rw [List.replicate_succ, List.foldl_cons, ih]
    show s.receive.queue.drop n = s.queue.drop (n + 1)
    rw [hqueue, List.drop_drop, Nat.add_comm]

/-- **In bounds unless overtaken.** Let the watch, the user and the drawing take turns in any order. A view that
follows is in bounds, and so is any view while no news but of growth waits. Out of bounds leads one step only: to
take up growth, without following, when fewer rows are left than make up a page from the first row on the screen.
The view is in bounds again after any news but of growth and after another format, so at the latest when all that
waits has been taken up. -/
theorem in_bounds_unless_overtaken {s : Live} (h : s.Reachable) :
    (s.app.view.auto = true ∨ (∀ c, .lines c ∈ s.queue → c.grows = true) →
      s.app.view.top ≤ s.app.view.maxTop) ∧
    (s.app.view.top ≤ s.app.view.maxTop → ∀ m,
      (s.step m).app.view.maxTop < (s.step m).app.view.top ↔ m = .receive ∧ s.Overtaken) ∧
    (∀ e rest, s.queue = e :: rest → e.settles = true →
      (s.step .receive).app.view.top ≤ (s.step .receive).app.view.maxTop) ∧
    (let after := (List.replicate s.queue.length Move.receive).foldl step s
     after.queue = [] ∧ after.app.view.top ≤ after.app.view.maxTop) := by
  refine ⟨?_, fun hin m => ?_, fun e rest hq he => ?_, ?_, ?_⟩
  · rintro (hauto | hall)
    · exact inBounds_of_auto h hauto
    · exact inBounds_of_growth h hall
  · rw [← Nat.not_le]
    exact not_inBounds_step_iff hin m
  · have hafter : (s.step .receive).app = (s.app.receive e).value := by
      simp only [step, receive, hq]
    rw [hafter]
    exact App.inBounds_receive_of_settles he s.app
  · rw [queue_receives, List.drop_length]
  · have hqueue := s.queue_receives s.queue.length
    rw [List.drop_length] at hqueue
    refine inBounds_of_growth (reachable_foldl h _) fun c hc => ?_
    rw [hqueue] at hc
    cases hc

/-- A log of two lines is shown from the second on. It grows by one, and before the viewer takes that up another
log of a single line is there. -/
def cutShort : List Move :=
  let grown := shortLog.append "app.log" [99, 10]
  let other := grown.rotate "app.log" [100, 10]
  [.act {} (.scroll .down 1), .watchLog grown grown, .watchLog other other]

theorem reachable_cutShort : (cutShort.foldl step opened).Reachable := by
  have hstart : (App.start { logPath := "app.log" } shortLog 80 3).value = .ok opened.app := rfl
  exact reachable_foldl (.start none hstart) cutShort

theorem in_bounds_unless_overtaken_cutShort :
    let s := cutShort.foldl step opened
    let after := (List.replicate 3 Move.receive).foldl step s
    s.Reachable ∧ s.app.view.top ≤ s.app.view.maxTop ∧ (s.Overtaken ↔
      (s.step .receive).app.view.maxTop < (s.step .receive).app.view.top) ∧
      after.queue = [] ∧ after.app.view.top ≤ after.app.view.maxTop := by
  have hqueue : (cutShort.foldl step opened).queue.length = 3 := by decide +kernel
  have hin : (cutShort.foldl step opened).app.view.top ≤ (cutShort.foldl step opened).app.view.maxTop := by
    decide +kernel
  obtain ⟨-, hstep, -, hafter⟩ := in_bounds_unless_overtaken reachable_cutShort
  rw [hqueue] at hafter
  have hiff := hstep hin .receive
  simp only [true_and] at hiff
  exact ⟨reachable_cutShort, hin, hiff.symm, hafter⟩

/-- One row is left, and the view starts behind it. -/
theorem overtaken_out_of_bounds :
    let s := (cutShort.foldl step opened).step .receive
    s.Reachable ∧ s.app.rowCount = 1 ∧ s.app.view.rowCount = 1 ∧ s.app.view.maxTop = 0 ∧ s.app.view.top = 1 := by
  refine ⟨.next .receive reachable_cutShort, ?_⟩
  decide +kernel

end Live

end LogTable
