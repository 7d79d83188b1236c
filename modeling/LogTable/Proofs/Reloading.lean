import Mathlib.Data.List.Induction
import LogTable.Proofs.Showing
import LogTable.Proofs.Storage

/-!
# Edits of the format file

A format file is written to while a viewer is at work (`Editing`). The viewer loads the file when it starts. Its
watch is made after that and takes what is there by then for what has been loaded. From then on the watch polls:
it looks at the time of the last change, and loads the file if that is not the time it saw last; the file may be
written to between the look and the load. What was loaded waits in the queue, and meanwhile the user may have
the file loaded again, so that an older format may be taken up after a newer one.

All of this comes right with the next poll, as every write has a time of its own: if the watch saw last what is
there now, then what is there is what the viewer will show once it has taken up what was found (`Live.due`,
`Sound.abreast`). The one exception is a write between the first load and the making of the watch. It is taken
for known, and no poll finds it (`Sound.missed`); only another write or the user can make up for it.

Results: `edits_shown_unless_missed`, and `early_edit_missed` with one such write.
-/
namespace LogTable

/-! ## The format file -/

/-- A format is loaded from a file. -/
theorem Format.file?_of_load {disk : Disk} {path : String} {f : Format}
    (h : (Format.load disk path).value = .ok f) : ∃ file, disk.file? path = some file := by
  unfold load Disk.readText at h
  cases hr : disk.read path with
  | error cause =>
    rw [hr] at h
    cases h
  | ok node =>
    cases node with
    | directory =>
      rw [hr] at h
      cases h
    | file file => exact ⟨file, Disk.file?_eq_some_iff.2 hr⟩

namespace Stamp

theorem modified?_of_file {disk : Disk} {path : String} {file : File} (h : disk.file? path = some file) :
    modified? disk path = some file.modified := by
  rw [Disk.file?_eq_some_iff] at h
  rw [modified?, h]
  rfl

/-- What a look at the disk `first` and a load from the disk `then'` make of a stamp, and what they find. -/
inductive Polled (s : Stamp) (first then' : Disk) : Stamp → List Finding → Prop
  | same : modified? first s.path = none ∨ s.modified = modified? first s.path → Polled s first then' s []
  | changed : s.modified ≠ modified? first s.path →
      Polled s first then' { s with modified := modified? first s.path }
        (s.announce (Format.load then' s.path).value).value

theorem polled_pollAcross (s : Stamp) (first then' : Disk) :
    Polled s first then' (s.pollAcross first then').value.1 (s.pollAcross first then').value.2 := by
  unfold pollAcross
  split
  · rename_i hnone
    exact .same (.inl hnone)
  · rename_i time htime
    split
    · rename_i hsame
      exact .same (.inr (hsame.trans htime.symm))
    · rename_i hother
      rw [← htime] at hother ⊢
      exact .changed hother

section Polled

variable {s s' : Stamp} {first then' : Disk} {found : List Finding}

theorem Polled.path_eq (h : Polled s first then' s' found) : s'.path = s.path := by
  cases h <;> rfl

/-- After a poll that found a file the watch knows the time it had. -/
theorem Polled.modified_eq (h : Polled s first then' s' found) {time : Int}
    (htime : modified? first s.path = some time) : s'.modified = some time := by
  cases h with
  | same hsame =>
    rw [htime] at hsame
    rcases hsame with hnone | hknown
    · cases hnone
    · exact hknown
  | changed _ => exact htime

/-- A poll that found the time it knew changed nothing. -/
theorem Polled.eq_of_known (h : Polled s first then' s' found) (hknown : s.modified = modified? first s.path) :
    s' = s ∧ found = [] := by
  cases h with
  | same _ => exact ⟨rfl, rfl⟩
  | changed hne => exact absurd hknown hne

end Polled

end Stamp

/-! ## Moves -/

/-- A viewer at work whose format file is written to. -/
structure Editing where
  live : Live
  disk : Disk
  /-- What the watch looked at, if it has not loaded since. -/
  looked : Option Disk := none

namespace Editing

inductive Move
  /-- The format file gets these bytes, at this time. -/
  | write (bytes : List UInt8) (modified : Int)
  /-- The watch is made. -/
  | watch
  /-- A poll begins: the watch looks at the format file. -/
  | look
  /-- The poll ends: the watch loads the format file if it has to. -/
  | load
  | receive
  | act (action : Action)
  | snapshot
  | frame
  | watchLog (first then' : Disk)

def step (path : String) (s : Editing) : Move → Editing
  | .write bytes modified => { s with disk := s.disk.writeStamped path bytes modified }
  | .watch =>
    let stamp := s.live.stamp <|> s.live.app.config.formatPath.map (Stamp.new s.disk)
    { s with live := { s.live with stamp } }
  | .look => if s.live.stamp.isSome then { s with looked := some (s.looked.getD s.disk) } else s
  | .load => match s.looked with
    | none => s
    | some first => { s with live := s.live.watchFormat first s.disk, looked := none }
  | .receive => { s with live := s.live.receive }
  | .act action => { s with live := s.live.step (.act s.disk action) }
  | .snapshot => { s with live := s.live.step .snapshot }
  | .frame => { s with live := s.live.step .frame }
  | .watchLog first then' => { s with live := s.live.watchLog first then' }

def run (path : String) (s : Editing) (moves : List Move) : Editing := moves.foldl (step path) s

/-- The viewer after its start. -/
def start (app : App) (disk : Disk) : Editing := { live := { app, stamp := none }, disk }

theorem run_concat (path : String) (s : Editing) (moves : List Move) (m : Move) :
    run path s (moves ++ [m]) = (run path s moves).step path m := by
  simp [run]

/-- The times of the writes. -/
def times (moves : List Move) : List Int :=
  moves.filterMap fun
    | .write _ modified => some modified
    | _ => none

/-- How far things have come, as the moves alone tell. -/
structure Progress where
  watching : Bool := false
  /-- Whether, since the look of the poll that is under way, nothing was written. -/
  poll : Option Bool := none
  /-- A poll that began after the last write has ended. -/
  checked : Bool := false
  /-- The last write was before the watch was made, and the user has not had the file loaded since. -/
  missed : Bool := false

def Progress.after (p : Progress) : Move → Progress
  | .write _ _ => { p with poll := p.poll.map fun _ => false, checked := false, missed := !p.watching }
  | .watch => { p with watching := true }
  | .look => if p.watching then { p with poll := some (p.poll.getD true) } else p
  | .load => { p with poll := none, checked := p.poll.getD p.checked }
  | .act .reload => { p with missed := false }
  | _ => p

def progress (moves : List Move) : Progress := moves.foldl Progress.after {}

theorem progress_concat (moves : List Move) (m : Move) : progress (moves ++ [m]) = (progress moves).after m := by
  simp [progress]

/-! ## What every move keeps -/

/-- The time of the last change of the format file. -/
def now (path : String) (s : Editing) : Option Int := Stamp.modified? s.disk path

/-- The watch, if there is one, saw last what is there now. -/
def UpToDate (path : String) (s : Editing) : Prop :=
  ∀ stamp, s.live.stamp = some stamp → stamp.modified = s.now path

/-- `used` are the times that the format file has had. -/
structure Sound (path : String) (used : List (Option Int)) (s : Editing) (p : Progress) : Prop where
  config : s.live.app.config.formatPath = some path
  file : ∃ file, s.disk.file? path = some file
  known : s.now path ∈ used
  stamp : ∀ stamp, s.live.stamp = some stamp → stamp.path = path ∧ stamp.modified ∈ used
  looked : ∀ disk, s.looked = some disk → Stamp.modified? disk path ∈ used
  watching : p.watching = s.live.stamp.isSome
  poll : p.poll = s.looked.map fun disk => decide (Stamp.modified? disk path = s.now path)
  unwatched : s.live.stamp = none → s.looked = none ∧ s.live.Quiet
  checked : p.checked = true → s.UpToDate path
  missed : p.missed = true → s.live.Quiet ∧ s.UpToDate path ∧
    ∀ disk, s.looked = some disk → Stamp.modified? disk path = s.now path
  abreast : p.missed = false → s.UpToDate path →
    ∀ f, (Format.load s.disk path).value = .ok f → s.live.due = (some f, f.name)

variable {path : String} {used : List (Option Int)} {s : Editing} {p : Progress}

theorem watching_eq_false_iff (h : s.Sound path used p) : p.watching = false ↔ s.live.stamp = none := by
  rw [h.watching]
  simp

/-- A write gives the file a time that the watch has not seen. -/
theorem sound_write (h : s.Sound path used p) (bytes : List UInt8) {modified : Int}
    (hnew : some modified ∉ used) :
    (s.step path (.write bytes modified)).Sound path (used ++ [some modified]) (p.after (.write bytes modified)) := by
  obtain ⟨file, hfile⟩ := h.file
  have hwritten := Disk.file?_writeStamped hfile bytes modified
  have hnow : (s.step path (.write bytes modified)).now path = some modified := Stamp.modified?_of_file hwritten
  have hother : ∀ disk, s.looked = some disk → Stamp.modified? disk path ≠ some modified := by
    intro disk hd he
    exact hnew (he ▸ h.looked disk hd)
  exact
    { config := h.config
      file := ⟨_, hwritten⟩
      known := by
        rw [hnow]
        exact List.mem_append_right used List.mem_cons_self
      stamp := fun stamp hs => ⟨(h.stamp stamp hs).1, List.mem_append_left _ (h.stamp stamp hs).2⟩
      looked := fun disk hd => List.mem_append_left _ (h.looked disk hd)
      watching := h.watching
      poll := by
        show p.poll.map (fun _ => false) = s.looked.map _
        rw [h.poll, hnow]
        cases hl : s.looked with
        | none => rfl
        | some disk => simp [hother disk hl]
      unwatched := h.unwatched
      checked := fun hc => by simp [Progress.after] at hc
      missed := fun hm => by
        have hno : s.live.stamp = none := by
          rw [← watching_eq_false_iff h]
          simpa [Progress.after] using hm
        obtain ⟨hlooked, hquiet⟩ := h.unwatched hno
        refine ⟨hquiet, fun stamp hs => ?_, fun disk hd => ?_⟩
        · exact absurd (hno.symm.trans hs) (by simp)
        · exact absurd (hlooked.symm.trans hd) (by simp)
      abreast := fun hm hup => by
        have hwatching : s.live.stamp ≠ none := by
          rw [Ne, ← watching_eq_false_iff h]
          simpa [Progress.after] using hm
        obtain ⟨stamp, hs⟩ := Option.ne_none_iff_exists'.1 hwatching
        have hseen : stamp.modified = some modified := (hup stamp hs).trans hnow
        exact absurd (hseen ▸ (h.stamp stamp hs).2) hnew }

/-- The watch takes what is there for known. -/
theorem sound_watch (h : s.Sound path used p) : (s.step path .watch).Sound path used (p.after .watch) := by
  cases hs : s.live.stamp with
  | some stamp =>
    have hstep : s.step path .watch = s := by
      obtain ⟨⟨app, _, queue⟩, disk, looked⟩ := s
      cases hs
      rfl
    have hafter : p.after .watch = p := by
      have hw : p.watching = true := by rw [h.watching, hs]; rfl
      obtain ⟨watching, poll, checked, missed⟩ := p
      cases hw
      rfl
    rw [hstep, hafter]
    exact h
  | none =>
    obtain ⟨hlooked, hquiet⟩ := h.unwatched hs
    have hstamp : (s.step path .watch).live.stamp = some (Stamp.new s.disk path) := by
      show (s.live.stamp <|> s.live.app.config.formatPath.map (Stamp.new s.disk)) = _
      rw [hs, h.config]
      rfl
    have hup : (s.step path .watch).UpToDate path := by
      intro stamp hstamp'
      rw [hstamp] at hstamp'
      cases hstamp'
      rfl
    exact
      { config := h.config
        file := h.file
        known := h.known
        stamp := fun stamp hstamp' => by
          rw [hstamp] at hstamp'
          cases hstamp'
          exact ⟨rfl, h.known⟩
        looked := h.looked
        watching := by rw [hstamp]; rfl
        poll := h.poll
        unwatched := fun hno => by rw [hstamp] at hno; cases hno
        checked := fun _ => hup
        missed := fun hm => ⟨hquiet, hup, (h.missed hm).2.2⟩
        abreast := fun hm _ => h.abreast hm fun stamp hstamp' => absurd (hs.symm.trans hstamp') (by simp) }

theorem sound_look (h : s.Sound path used p) : (s.step path .look).Sound path used (p.after .look) := by
  have hw := h.watching
  by_cases hsome : s.live.stamp.isSome = true
  · have hwatching : p.watching = true := hw.trans hsome
    have hlooked : ∀ disk, some (s.looked.getD s.disk) = some disk →
        s.looked = some disk ∨ disk = s.disk := by
      intro disk hd
      cases hl : s.looked with
      | none =>
        rw [hl] at hd
        exact .inr (Option.some.inj hd).symm
      | some other =>
        rw [hl] at hd
        exact .inl hd
    simp only [step, if_pos hsome, Progress.after, hwatching, if_true]
    exact
      { config := h.config
        file := h.file
        known := h.known
        stamp := h.stamp
        looked := fun disk hd => by
          rcases hlooked disk hd with hd | rfl
          · exact h.looked disk hd
          · exact h.known
        watching := by
          show true = _
          rw [hsome]
        poll := by
          show some (p.poll.getD true) = _
          rw [h.poll]
          cases hl : s.looked with
          | none => simp [now]
          | some disk => rfl
        unwatched := fun hno => by
          rw [hno] at hsome
          cases hsome
        checked := h.checked
        missed := fun hm => by
          obtain ⟨hquiet, hup, hold⟩ := h.missed hm
          refine ⟨hquiet, hup, fun disk hd => ?_⟩
          rcases hlooked disk hd with hd | rfl
          · exact hold disk hd
          · rfl
        abreast := h.abreast }
  · have hwatching : p.watching = false := by rw [hw]; simpa using hsome
    simp only [step, if_neg hsome, Progress.after, hwatching]
    exact h

/-- A load after which the watch knows what is there, if it looked after the last write. -/
theorem sound_load (h : s.Sound path used p) : (s.step path .load).Sound path used (p.after .load) := by
  have hpoll := h.poll
  cases hl : s.looked with
  | none =>
    have hstep : s.step path .load = s := by simp only [step, hl]
    have hafter : p.after .load = p := by
      rw [hl] at hpoll
      obtain ⟨watching, poll, checked, missed⟩ := p
      cases hpoll
      rfl
    rw [hstep, hafter]
    exact h
  | some first =>
    obtain ⟨file, hfile⟩ := h.file
    have hnow : s.now path = some file.modified := Stamp.modified?_of_file hfile
    have hsome : s.live.stamp ≠ none := fun hno => by
      rw [(h.unwatched hno).1] at hl
      cases hl
    obtain ⟨stamp, hs⟩ := Option.ne_none_iff_exists'.1 hsome
    have hafter : p.after .load =
        { p with poll := none, checked := decide (Stamp.modified? first path = s.now path) } := by
      rw [hl] at hpoll
      simp only [Progress.after, hpoll, Option.map_some, Option.getD_some]
    obtain ⟨rfl, hused⟩ := h.stamp stamp hs
    have hp := stamp.polled_pollAcross first s.disk
    rw [hafter]
    simp only [step, hl, Live.watchFormat, hs]
    generalize (stamp.pollAcross first s.disk).value.1 = stamp' at hp
    generalize (stamp.pollAcross first s.disk).value.2 = found at hp
    have hused' : stamp'.modified ∈ used := by
      cases hp with
      | same _ => exact hused
      | changed _ => exact h.looked first hl
    exact
      { config := h.config
        file := h.file
        known := h.known
        stamp := fun other ho => by
          cases ho
          exact ⟨hp.path_eq, hused'⟩
        looked := fun disk hd => by cases hd
        watching := by
          rw [h.watching, hs]
          rfl
        poll := rfl
        unwatched := fun hno => by cases hno
        checked := fun hc other ho => by
          cases ho
          have hfirst := of_decide_eq_true hc
          exact (hp.modified_eq (hfirst.trans hnow)).trans hnow.symm
        missed := fun hm => by
          obtain ⟨hquiet, hup, hold⟩ := h.missed hm
          obtain ⟨rfl, rfl⟩ := hp.eq_of_known ((hup stamp hs).trans (hold first hl).symm)
          refine ⟨fun f hf => hquiet f (by simpa using hf), fun other ho => ?_, fun disk hd => by cases hd⟩
          cases ho
          exact hup stamp' hs
        abreast := fun hm hup f hf => by
          cases hp with
          | same _ =>
            have hold := h.abreast hm (fun other ho => hup other (hs ▸ ho)) f hf
            simpa only [Live.due, List.append_nil] using hold
          | changed _ =>
            -- what was loaded is the last format to be taken up
            rw [hf]
            simp only [Live.due, List.foldl_append]
            rfl }

/-- What happens in the viewer alone, while the format that it will show stays as it was. -/
theorem Sound.viewer (h : s.Sound path used p) {live : Live} (hconfig : live.app.config = s.live.app.config)
    (hstamp : live.stamp = s.live.stamp) (hquiet : s.live.Quiet → live.Quiet) (hdue : live.due = s.live.due) :
    Sound path used { s with live } p where
  config := (congrArg Config.formatPath hconfig).trans h.config
  file := h.file
  known := h.known
  stamp := fun stamp hs => h.stamp stamp (hstamp ▸ hs)
  looked := h.looked
  watching := hstamp ▸ h.watching
  poll := h.poll
  unwatched := fun hno => ⟨(h.unwatched (hstamp ▸ hno)).1, hquiet (h.unwatched (hstamp ▸ hno)).2⟩
  checked := fun hc stamp hs => h.checked hc stamp (hstamp ▸ hs)
  missed := fun hm =>
    ⟨hquiet (h.missed hm).1, fun stamp hs => (h.missed hm).2.1 stamp (hstamp ▸ hs), (h.missed hm).2.2⟩
  abreast := fun hm hup f hf => hdue.trans (h.abreast hm (fun stamp hs => hup stamp (hstamp ▸ hs)) f hf)

/-- Whatever the user has loaded is shown, or else what waits will be. -/
theorem sound_reload (h : s.Sound path used p) :
    (s.step path (.act .reload)).Sound path used (p.after (.act .reload)) where
  config := (congrArg Config.formatPath (s.live.app.config_reload s.disk)).trans h.config
  file := h.file
  known := h.known
  stamp := h.stamp
  looked := h.looked
  watching := h.watching
  poll := h.poll
  unwatched := h.unwatched
  checked := h.checked
  missed := fun hm => by cases hm
  abreast := fun _ hup f hf => by
    have hshown : (s.live.app.reload s.disk).value.showing = (some f, f.name) :=
      App.showing_reload h.config hf
    show s.live.queue.foldl Finding.turn (s.live.app.reload s.disk).value.showing = (some f, f.name)
    rw [hshown]
    cases hm : p.missed with
    | true => exact Finding.foldl_turn_of_quiet (h.missed hm).1 _
    | false =>
      -- what waits leads to this format from what was shown before, and so from itself
      have hdue := h.abreast hm hup f hf
      rw [← hdue]
      exact Finding.foldl_turn_idem s.live.queue s.live.app.showing

theorem sound_act (h : s.Sound path used p) (a : Action) :
    (s.step path (.act a)).Sound path used (p.after (.act a)) := by
  by_cases ha : a = .reload
  · subst ha
    exact sound_reload h
  · have hafter : p.after (.act a) = p := by
      cases a with
      | reload => exact absurd rfl ha
      | scroll | pageDown | pageUp | toStart | toEnd | toggleAuto | resize | quit => rfl
    rw [hafter]
    simp only [step, Live.step, s.live.app.act_of_ne s.disk ha, Logged.value_pure]
    exact h.viewer rfl rfl id (congrArg (s.live.queue.foldl Finding.turn) (s.live.app.showing_moveView a))

theorem sound_step_of_no_write (h : s.Sound path used p) {m : Move} (hm : times [m] = []) :
    (s.step path m).Sound path used (p.after m) := by
  cases m with
  | write bytes modified => cases hm
  | watch => exact sound_watch h
  | look => exact sound_look h
  | load => exact sound_load h
  | receive => exact h.viewer s.live.config_receive s.live.stamp_receive (·.receive) s.live.due_receive
  | act a => exact sound_act h a
  | snapshot | frame =>
    exact h.viewer rfl rfl id (congrArg (s.live.queue.foldl Finding.turn) s.live.app.showing_snapshot)
  | watchLog first then' => exact h.viewer rfl rfl (·.watchLog first then') (s.live.due_watchLog first then')

theorem sound_step (h : s.Sound path used p) (m : Move) (hnew : ∀ t ∈ times [m], some t ∉ used) :
    (s.step path m).Sound path (used ++ (times [m]).map some) (p.after m) := by
  cases m with
  | write bytes modified => exact sound_write h bytes (hnew modified List.mem_cons_self)
  | watch | look | load | receive | act | snapshot | frame | watchLog =>
    exact (List.append_nil used).symm ▸ sound_step_of_no_write h rfl

/-! ## Whole runs -/

theorem sound_start {config : Config} {disk : Disk} {width height : Nat} {app : App}
    (hstart : (App.start config disk width height).value = .ok app) (hpath : config.formatPath = some path) :
    (start app disk).Sound path [Stamp.modified? disk path] {} := by
  obtain ⟨follower, f, hload, rfl⟩ := App.start_ok hstart
  simp only [App.startFormat, hpath] at hload
  exact
    { config := hpath
      file := Format.file?_of_load hload
      known := List.mem_cons_self
      stamp := fun stamp hs => by cases hs
      looked := fun disk hd => by cases hd
      watching := rfl
      poll := rfl
      unwatched := fun _ => ⟨rfl, fun f hf => by cases hf⟩
      checked := fun hc => by cases hc
      missed := fun hm => by cases hm
      abreast := fun _ _ f' hf' => by
        cases hload.symm.trans hf'
        exact congrArg (Prod.mk (some f)) (View.formatName_notice _ _ _) }

theorem times_append (first rest : List Move) : times (first ++ rest) = times first ++ times rest :=
  List.filterMap_append

/-- Writes of which each has a time of its own keep a run sound. -/
theorem sound_run (h : s.Sound path used {}) {moves : List Move} (hnew : ∀ t ∈ times moves, some t ∉ used)
    (hdiff : (times moves).Nodup) :
    (run path s moves).Sound path (used ++ (times moves).map some) (progress moves) := by
  induction moves using List.reverseRecOn with
  | nil => exact (List.append_nil used).symm ▸ h
  | append_singleton moves m ih =>
    rw [times_append] at hnew hdiff
    obtain ⟨hbefore, -, hapart⟩ := List.nodup_append.1 hdiff
    have hs := ih (fun t ht => hnew t (List.mem_append_left _ ht)) hbefore
    have hstep := sound_step hs m fun t ht hused => by
      rcases List.mem_append.1 hused with hused | hused
      · exact hnew t (List.mem_append_right _ ht) hused
      · obtain ⟨other, hother, he⟩ := List.mem_map.1 hused
        exact hapart other hother t ht (Option.some.inj he)
    rw [run_concat, progress_concat, times_append, List.map_append, ← List.append_assoc]
    exact hstep

/-! ## A write that is missed -/

theorem Progress.watching_after_iff (p : Progress) (m : Move) :
    (p.after m).watching = true ↔ p.watching = true ∨ m = .watch := by
  cases m with
  | watch => simp [after]
  | look =>
    simp only [after]
    split <;> simp_all
  | act a => cases a <;> simp [after]
  | write | load | receive | snapshot | frame | watchLog => simp [after]

theorem watching_progress_iff (moves : List Move) : (progress moves).watching = true ↔ .watch ∈ moves := by
  induction moves using List.reverseRecOn with
  | nil => simp [progress]
  | append_singleton moves m ih =>
    rw [progress_concat, Progress.watching_after_iff, ih, List.mem_append, List.mem_singleton, eq_comm]

/-- What was missed was so before, unless there was a write just now. -/
theorem Progress.missed_of_after {m : Move} (h : (p.after m).missed = true) (hm : times [m] = []) :
    m ≠ .act .reload ∧ p.missed = true := by
  cases m with
  | write bytes modified => cases hm
  | look =>
    simp only [after] at h
    split at h <;> exact ⟨nofun, h⟩
  | act a =>
    cases a with
    | reload => cases h
    | scroll | pageDown | pageUp | toStart | toEnd | toggleAuto | resize | quit => exact ⟨nofun, h⟩
  | watch | load | receive | snapshot | frame | watchLog => exact ⟨nofun, h⟩

/-- After a write that was missed nothing but the user makes the viewer show another format. -/
theorem showing_of_missed (h : s.Sound path used p) (hmissed : p.missed = true) {m : Move}
    (hm : m ≠ .act .reload) : (s.step path m).live.app.showing = s.live.app.showing := by
  cases m with
  | write | watch | watchLog => rfl
  | look =>
    simp only [step]
    split <;> rfl
  | load =>
    simp only [step]
    split
    · rfl
    · unfold Live.watchFormat
      split <;> rfl
  | receive =>
    simp only [step]
    rw [← (h.missed hmissed).1.receive.due_eq, Live.due_receive, (h.missed hmissed).1.due_eq]
  | act a =>
    have ha : a ≠ .reload := fun he => hm (he ▸ rfl)
    simp only [step, Live.step, s.live.app.act_of_ne s.disk ha, Logged.value_pure]
    exact s.live.app.showing_moveView a
  | snapshot | frame => exact s.live.app.showing_snapshot

theorem exists_missed (h : s.Sound path used {}) {moves : List Move} (hnew : ∀ t ∈ times moves, some t ∉ used)
    (hdiff : (times moves).Nodup) (hmissed : (progress moves).missed = true) :
    ∃ startup bytes modified rest, moves = startup ++ .write bytes modified :: rest ∧ .watch ∉ startup ∧
      times rest = [] ∧ .act .reload ∉ rest ∧
      (run path s moves).live.app.showing = (run path s startup).live.app.showing := by
  induction moves using List.reverseRecOn with
  | nil => cases hmissed
  | append_singleton moves m ih =>
    rw [times_append] at hnew hdiff
    have hbefore : ∀ t ∈ times moves, some t ∉ used := fun t ht => hnew t (List.mem_append_left _ ht)
    have hdiff' := (List.nodup_append.1 hdiff).1
    rw [progress_concat] at hmissed
    by_cases hm : times [m] = []
    · obtain ⟨hne, hold⟩ := Progress.missed_of_after hmissed hm
      obtain ⟨startup, bytes, modified, rest, rfl, hstartup, hrest, hreload, hshowing⟩ := ih hbefore hdiff' hold
      refine ⟨startup, bytes, modified, rest ++ [m], by simp, hstartup, ?_, ?_, ?_⟩
      · rw [times_append, hrest, hm, List.append_nil]
      · simp [hreload, hne.symm]
      · rw [run_concat, showing_of_missed (sound_run h hbefore hdiff') hold hne, hshowing]
    · cases m with
      | write bytes modified =>
        refine ⟨moves, bytes, modified, [], rfl, ?_, rfl, by simp, ?_⟩
        · rw [← watching_progress_iff]
          simpa [Progress.after] using hmissed
        · rw [run_concat]
          rfl
      | watch | look | load | receive | act | snapshot | frame | watchLog => exact absurd rfl hm

/-- **Edits are shown unless one is missed.** Take any run after a start, with writes that each have a time of
their own. Once a poll that began after the last write has ended and nothing waits, the format of what was written
last is shown, with its columns and its name, if there is one to load. It is not if that write came before the watch
was made and the user has not had the file loaded since: then the viewer shows what it did before the write. -/
theorem edits_shown_unless_missed {config : Config} {disk : Disk} {width height : Nat} {app : App}
    (hstart : (App.start config disk width height).value = .ok app) (hpath : config.formatPath = some path)
    (moves : List Move) (hnew : ∀ t ∈ times moves, Stamp.modified? disk path ≠ some t)
    (hdiff : (times moves).Nodup) :
    let s := run path (start app disk) moves
    ((progress moves).checked = true → (progress moves).missed = false → s.live.queue = [] →
      ∀ f, (Format.load s.disk path).value = .ok f →
        s.live.app.table.format = some f ∧ s.live.app.table.columns = f.columns ∧
          s.live.app.view.formatName = f.name) ∧
    ((progress moves).missed = true →
      ∃ startup bytes modified rest, moves = startup ++ .write bytes modified :: rest ∧ .watch ∉ startup ∧
        times rest = [] ∧ .act .reload ∉ rest ∧
        let before := run path (start app disk) startup
        s.live.app.table.format = before.live.app.table.format ∧
          s.live.app.view.formatName = before.live.app.view.formatName) := by
  intro s
  have hinitial := sound_start hstart hpath
  have hfresh : ∀ t ∈ times moves, some t ∉ [Stamp.modified? disk path] := by
    intro t ht hused
    exact hnew t ht (List.mem_singleton.1 hused).symm
  have hs := sound_run hinitial hfresh hdiff
  refine ⟨fun hchecked hmissed hq f hf => ?_, fun hmissed => ?_⟩
  · have hdue := hs.abreast hmissed (hs.checked hchecked) f hf
    have hquiet : s.live.Quiet := by
      intro g hg
      rw [hq] at hg
      cases hg
    have hshown : s.live.app.showing = (some f, f.name) := hquiet.due_eq.symm.trans hdue
    have hformat : s.live.app.table.format = some f := congrArg Prod.fst hshown
    exact ⟨hformat, Table.columns_of_format hformat, congrArg Prod.snd hshown⟩
  · obtain ⟨startup, bytes, modified, rest, he, hstartup, hrest, hreload, hshowing⟩ :=
      exists_missed hinitial hfresh hdiff hmissed
    exact ⟨startup, bytes, modified, rest, he, hstartup, hrest, hreload, congrArg Prod.fst hshowing,
      congrArg Prod.snd hshowing⟩

/-- A format file with a name in it. -/
def formatFile (name : String) : List UInt8 :=
  ("name = \"" ++ name ++ "\"\npattern = \"(?<all>)(?<line>.*)\"\n").toUTF8.toList

def smallConfig : Config := { logPath := "app.log", formatPath := some "app.toml" }

def firstDisk : Disk := (({} : Disk).rotate "app.log" [97, 10]).writeStamped "app.toml" (formatFile "one") 1

/-- The file is written to before a poll and in the middle of it, and the user has it loaded before the viewer takes
up what the poll found. -/
def lateEdits : List Move :=
  [.watch, .write (formatFile "two") 5, .look, .write (formatFile "three") 2, .load, .act .reload, .look, .load,
    .receive, .frame, .receive]

theorem edits_shown_lateEdits :
    ∃ app, (App.start smallConfig firstDisk 80 6).value = .ok app ∧
      let s := run "app.toml" (start app firstDisk) lateEdits
      (progress lateEdits).checked = true ∧ (progress lateEdits).missed = false ∧ s.live.queue = [] ∧
      ∃ f, f.name = "three" ∧ (Format.load s.disk "app.toml").value = .ok f ∧ s.live.app.table.format = some f ∧
        s.live.app.table.columns = f.columns ∧ s.live.app.view.formatName = f.name := by
  have hrun : ((App.start smallConfig firstDisk 80 6).value.toOption.map fun app =>
      let s := run "app.toml" (start app firstDisk) lateEdits
      (s.live.queue.isEmpty, (Format.load s.disk "app.toml").value.toOption.map Format.name)) =
        some (true, some "three") := by decide +kernel
  cases hstart : (App.start smallConfig firstDisk 80 6).value with
  | error why =>
    rw [hstart] at hrun
    cases hrun
  | ok app =>
    rw [hstart] at hrun
    simp only [Except.toOption, Option.map_some, Option.some.injEq, Prod.mk.injEq, List.isEmpty_iff] at hrun
    obtain ⟨hq, hload⟩ := hrun
    have hnew : ∀ t ∈ times lateEdits, Stamp.modified? firstDisk "app.toml" ≠ some t := by decide +kernel
    have hdiff : (times lateEdits).Nodup := by decide
    have hshown := (edits_shown_unless_missed hstart rfl lateEdits hnew hdiff).1 rfl rfl hq
    cases hf : (Format.load (run "app.toml" (start app firstDisk) lateEdits).disk "app.toml").value with
    | error why =>
      rw [hf] at hload
      cases hload
    | ok f =>
      rw [hf] at hload
      exact ⟨app, rfl, rfl, rfl, hq, f, Option.some.inj hload, hf, hshown f hf⟩

/-- The file is written to before the watch is made. -/
def earlyEdit : List Move := [.write (formatFile "two") 2, .watch, .look, .load]

/-- Although a poll has ended since and nothing waits, the viewer shows the format of before. -/
theorem early_edit_missed :
    Stamp.modified? firstDisk "app.toml" = some 1 ∧ times earlyEdit = [2] ∧ (progress earlyEdit).checked = true ∧
      ((App.start smallConfig firstDisk 80 6).value.toOption.map fun app =>
        let s := run "app.toml" (start app firstDisk) earlyEdit
        (s.live.queue.isEmpty, (Format.load s.disk "app.toml").value.toOption.map Format.name,
          s.live.app.table.format.map Format.name, s.live.app.view.formatName)) =
        some (true, some "two", some "one", "one") := by
  decide +kernel

end Editing

end LogTable
