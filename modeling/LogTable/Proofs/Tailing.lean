import LogTable.Proofs.Following
import LogTable.Proofs.Notices

/-!
# Following a file that is only appended to

A writer appends to a file, a few bytes at a time, while a follower looks at it again and again. A look has
three steps: the file is looked at, what is new is read, and what has been read is taken over. The writer may
come in before any of them, so a file may be longer when it is read than when it was looked at, and a look may
end in the middle of a line, of a line end or of a character.

`Tailing.Sound` relates the follower to the file as it was when the follower last saw all of it, which is an
initial part of the file there is now; a look that is under way has found parts in between (`Phase.Between`).
Both the writer and the follower keep this (`sound_step`). No bytes are read twice or left out since the
follower goes by the bytes it has read and not by those it has looked at (`look_of_growsTo`).

Result: `tailed_lines`.
-/
namespace LogTable

/-- It is the same file, perhaps with more bytes at its end. -/
structure File.GrowsTo (old new : File) : Prop where
  identity : new.identity = old.identity
  bytes : old.bytes <+: new.bytes

theorem File.GrowsTo.refl (file : File) : file.GrowsTo file := ⟨rfl, List.prefix_refl _⟩

theorem File.GrowsTo.trans {a b c : File} (h₁ : a.GrowsTo b) (h₂ : b.GrowsTo c) : a.GrowsTo c :=
  ⟨h₂.identity.trans h₁.identity, h₁.bytes.trans h₂.bytes⟩

/-- Appending some bytes after others. -/
def Disk.appendAll (d : Disk) (path : String) (chunks : List (List UInt8)) : Disk :=
  chunks.foldl (fun d bytes => d.append path bytes) d

theorem Disk.file?_appendAll {d : Disk} {path : String} {f : File} (h : d.file? path = some f)
    (chunks : List (List UInt8)) : ∃ g, (d.appendAll path chunks).file? path = some g ∧
      f.GrowsTo g ∧ g.bytes = f.bytes ++ chunks.flatten := by
  unfold Disk.appendAll
  induction chunks generalizing d f with
  | nil => exact ⟨f, h, .refl f, by simp⟩
  | cons bytes chunks ih =>
    obtain ⟨g, hg, hgrows, hbytes⟩ := ih (file?_append h bytes)
    have hstep : f.GrowsTo { f with bytes := f.bytes ++ bytes, modified := d.clock } :=
      ⟨rfl, List.prefix_append _ _⟩
    exact ⟨g, hg, hstep.trans hgrows, by simpa using hbytes⟩

namespace Follower

/-! ## One look -/

theorem lookAcross_path (f : Follower) (first then' : Disk) : (f.lookAcross first then').1.path = f.path := by
  unfold lookAcross
  split
  · rename_i r h
    exact (looked_of_refreshAcross h).path
  · rfl

theorem takeTail_openTail (f : Follower) (tail : List UInt8) : (f.takeTail tail).1.openTail = f.openTail := by
  unfold takeTail
  simp only
  split <;> rfl

theorem takeTail_grows (f : Follower) (tail : List UInt8) : ∀ c ∈ (f.takeTail tail).2, c.grows = true := by
  unfold takeTail
  simp only
  split
  · simp
  · rename_i h
    have hpos := List.length_pos_iff.2 (linesOf_completePart_ne_nil (by simpa using h))
    intro c hc
    rw [List.mem_singleton.1 hc]
    simp only [LineChange.grows, Lines.extend, Lines.changeTo, decide_eq_true_eq, Array.size_append,
      List.size_toArray]
    omega

/-- A file that has grown is read on from where it was left; one that has not is left alone. -/
theorem plan_of_growsTo {f : Follower} {old new : File} (h : f.Tracks old) (ho : f.openTail = false)
    (hg : old.GrowsTo new) :
    f.plan (.file new) = if new.bytes.length = f.seen then .idle else .readTail := by
  have hi : new.identity = f.identity := hg.identity.trans h.identity.symm
  have hl : ¬ new.bytes.length < f.seen := by
    rw [h.seen]
    exact Nat.not_lt.2 hg.bytes.length_le
  unfold plan
  simp only [hi, hl, ho, ne_eq, not_true_eq_false, or_self, if_false, Bool.false_eq_true]

/-- What a look does that finds a file grown, and reads it when it may have grown again: it tracks a file in
between, and tells of nothing but growth. -/
theorem look_of_growsTo {f : Follower} {old found now : File} {first then' : Disk} (h : f.Tracks old)
    (ho : f.openTail = false) (hfirst : first.file? f.path = some found) (hthen : then'.file? f.path = some now)
    (hfound : old.GrowsTo found) (hnow : found.GrowsTo now) :
    (∃ seen, (f.lookAcross first then').1.Tracks seen ∧ found.GrowsTo seen ∧ seen.GrowsTo now) ∧
      (f.lookAcross first then').1.openTail = false ∧
      ∀ c ∈ (f.lookAcross first then').2, c.effect = .append c.old c.new := by
  have hplan := plan_of_growsTo h ho hfound
  rw [Disk.file?_eq_some_iff] at hfirst hthen
  by_cases hl : found.bytes.length = f.seen
  · have hlook : f.lookAcross first then' = (f, []) := by
      unfold lookAcross refreshAcross
      simp only [hfirst, hplan, hl, if_true]
      rfl
    rw [hlook]
    have htracks := tracks_same h (hfound.identity.trans h.identity.symm) hfound.bytes hl
    exact ⟨⟨found, htracks, .refl found, hnow⟩, ho, by simp⟩
  · have hlook : f.lookAcross first then' = f.takeTail (now.bytes.drop f.read) := by
      unfold lookAcross refreshAcross
      simp only [hfirst, hplan, hl, if_false, readTail, hthen]
      rfl
    rw [hlook]
    have hgrown := hfound.trans hnow
    have htracks := tracks_takeTail h (hgrown.identity.trans h.identity.symm) hgrown.bytes ho
    refine ⟨⟨now, htracks, hnow, .refl now⟩, (takeTail_openTail f _).trans ho, fun c hc => ?_⟩
    exact LineChange.effect_of_grows (takeTail_grows f _ c hc)

/-- All lines are those of what has been seen, but for what stands behind its last newline. -/
theorem Tracks.lines_complete {f : Follower} {file : File} (h : f.Tracks file) (ho : f.openTail = false) :
    f.lines.toList = (linesOf (completePart file.bytes)).1 := by
  have hcut := completePart_append (h.closed ho) h.rest
  rw [List.take_append_drop] at hcut
  rw [h.lines, hcut]

end Follower

/-! ## The writer and the follower -/

/-- How far a look has come. -/
inductive Phase
  | resting
  /-- The file has been looked at on this disk. -/
  | looked (first : Disk)
  /-- The file has been looked at on the first disk and read from the second one. -/
  | read (first then' : Disk)

/-- The files that a look has come upon lie between the one seen last and the one there is now. -/
def Phase.Between (path : String) (old now : File) : Phase → Prop
  | .resting => old.GrowsTo now
  | .looked first => ∃ found, first.file? path = some found ∧ old.GrowsTo found ∧ found.GrowsTo now
  | .read first then' => ∃ found taken, first.file? path = some found ∧ then'.file? path = some taken ∧
    old.GrowsTo found ∧ found.GrowsTo taken ∧ taken.GrowsTo now

theorem Phase.Between.growsTo {path : String} {old now : File} {phase : Phase}
    (h : phase.Between path old now) : old.GrowsTo now := by
  cases phase with
  | resting => exact h
  | looked first =>
    obtain ⟨found, -, h₁, h₂⟩ := h
    exact h₁.trans h₂
  | read first then' =>
    obtain ⟨found, taken, -, -, h₁, h₂, h₃⟩ := h
    exact h₁.trans (h₂.trans h₃)

theorem Phase.Between.later {path : String} {old now later : File} {phase : Phase}
    (h : phase.Between path old now) (hl : now.GrowsTo later) : phase.Between path old later := by
  cases phase with
  | resting => exact h.trans hl
  | looked first =>
    obtain ⟨found, hf, h₁, h₂⟩ := h
    exact ⟨found, hf, h₁, h₂.trans hl⟩
  | read first then' =>
    obtain ⟨found, taken, hf, ht, h₁, h₂, h₃⟩ := h
    exact ⟨found, taken, hf, ht, h₁, h₂, h₃.trans hl⟩

/-- A follower and the disk it looks at. -/
structure Tailing where
  disk : Disk
  follower : Follower
  phase : Phase := .resting
  /-- All notices so far, oldest first. -/
  told : List LineChange := []

namespace Tailing

inductive Turn
  /-- The writer appends some bytes. -/
  | append (bytes : List UInt8)
  /-- The follower takes its next step. -/
  | proceed

def proceed (s : Tailing) : Tailing :=
  match s.phase with
  | .resting => { s with phase := .looked s.disk }
  | .looked first => { s with phase := .read first s.disk }
  | .read first then' =>
    let (follower, changes) := s.follower.lookAcross first then'
    { s with follower, phase := .resting, told := s.told ++ changes }

def step (s : Tailing) : Turn → Tailing
  | .append bytes => { s with disk := s.disk.append s.follower.path bytes }
  | .proceed => s.proceed

def run (s : Tailing) (turns : List Turn) : Tailing := turns.foldl step s

/-- All that the writer appends. -/
def written : List Turn → List UInt8
  | [] => []
  | .append bytes :: rest => bytes ++ written rest
  | .proceed :: rest => written rest

/-- A whole look. Some bytes come before the file is read and some before what has been read is taken over. -/
def look (before after : List (List UInt8)) : List Turn :=
  .proceed :: before.map .append ++ .proceed :: after.map .append ++ [.proceed]

/-! ## One step -/

/-- `old` is the file as the follower has seen it, `now` the file there is. -/
structure Sound (s : Tailing) (old now : File) : Prop where
  tracks : s.follower.Tracks old
  closed : s.follower.openTail = false
  there : s.disk.file? s.follower.path = some now
  between : s.phase.Between s.follower.path old now
  told : ∀ c ∈ s.told, c.effect = .append c.old c.new

theorem sound_append {s : Tailing} {old now : File} (h : s.Sound old now) (bytes : List UInt8) :
    ∃ later, (s.step (.append bytes)).Sound old later ∧ later.bytes = now.bytes ++ bytes := by
  have hthere := Disk.file?_append h.there bytes
  have hgrows : now.GrowsTo { now with bytes := now.bytes ++ bytes, modified := s.disk.clock } :=
    ⟨rfl, List.prefix_append _ _⟩
  exact ⟨_, ⟨h.tracks, h.closed, hthere, h.between.later hgrows, h.told⟩, rfl⟩

theorem sound_proceed {s : Tailing} {old now : File} (h : s.Sound old now) :
    ∃ seen, s.proceed.Sound seen now := by
  obtain ⟨disk, follower, phase, told⟩ := s
  cases phase with
  | resting => exact ⟨old, h.tracks, h.closed, h.there, ⟨now, h.there, h.between, .refl now⟩, h.told⟩
  | looked first =>
    obtain ⟨found, hf, h₁, h₂⟩ := h.between
    exact ⟨old, h.tracks, h.closed, h.there, ⟨found, now, hf, h.there, h₁, h₂, .refl now⟩, h.told⟩
  | read first then' =>
    obtain ⟨found, taken, hf, ht, h₁, h₂, h₃⟩ := h.between
    obtain ⟨⟨seen, htracks, -, hseen⟩, hclosed, htold⟩ := Follower.look_of_growsTo h.tracks h.closed hf ht h₁ h₂
    have hpath := follower.lookAcross_path first then'
    refine ⟨seen, htracks, hclosed, ?_, hseen.trans h₃, fun c hc => ?_⟩
    · simp only [proceed, hpath]
      exact h.there
    · rcases List.mem_append.1 hc with hc | hc
      · exact h.told c hc
      · exact htold c hc

theorem sound_step {s : Tailing} {old now : File} (h : s.Sound old now) (turn : Turn) :
    ∃ old' now', (s.step turn).Sound old' now' ∧ now'.bytes = now.bytes ++ written [turn] := by
  cases turn with
  | append bytes =>
    obtain ⟨later, hsound, hbytes⟩ := sound_append h bytes
    exact ⟨old, later, hsound, by simpa [written] using hbytes⟩
  | proceed =>
    obtain ⟨seen, hsound⟩ := sound_proceed h
    exact ⟨seen, now, hsound, by simp [written]⟩

/-! ## Whole runs -/

theorem written_cons (turn : Turn) (turns : List Turn) : written (turn :: turns) = written [turn] ++ written turns := by
  cases turn <;> simp [written]

theorem sound_run {s : Tailing} {old now : File} (h : s.Sound old now) (turns : List Turn) :
    ∃ old' now', (s.run turns).Sound old' now' ∧ now'.bytes = now.bytes ++ written turns := by
  unfold run
  induction turns generalizing s old now with
  | nil => exact ⟨old, now, h, by simp [written]⟩
  | cons turn turns ih =>
    obtain ⟨old₁, now₁, h₁, hb₁⟩ := sound_step h turn
    obtain ⟨old₂, now₂, h₂, hb₂⟩ := ih h₁
    exact ⟨old₂, now₂, h₂, by rw [hb₂, hb₁, written_cons turn turns, List.append_assoc]⟩

/-- A follower of a file that is empty, or ends with a newline, has seen all of it. -/
theorem sound_start {path : String} {disk : Disk} {opened : File} (h : disk.file? path = some opened)
    (hc : isComplete opened.bytes = true) :
    Sound { disk, follower := .ofFile path opened } opened opened where
  tracks := Follower.tracks_ofFile path opened
  closed := by simp [Follower.ofFile, linesOf, hc]
  there := h
  between := .refl opened
  told := by simp

theorem Sound.seen_eq {s : Tailing} {old now : File} (h : s.Sound old now) :
    old.bytes = now.bytes.take s.follower.seen := by
  rw [h.tracks.seen]
  exact List.prefix_iff_eq_take.1 h.between.growsTo.bytes

theorem Sound.lines {s : Tailing} {old now : File} (h : s.Sound old now) :
    s.follower.lines.toList = (linesOf (completePart (now.bytes.take s.follower.seen))).1 := by
  rw [← h.seen_eq]
  exact h.tracks.lines_complete h.closed

theorem run_append (s : Tailing) (first rest : List Turn) : s.run (first ++ rest) = (s.run first).run rest :=
  List.foldl_append

theorem run_appends (s : Tailing) (chunks : List (List UInt8)) :
    s.run (chunks.map .append) = { s with disk := s.disk.appendAll s.follower.path chunks } := by
  unfold run Disk.appendAll
  induction chunks generalizing s with
  | nil => rfl
  | cons bytes chunks ih => exact ih (s.step (.append bytes))

/-- A whole look looks at the disk there is first, and reads from the disk there is then. -/
theorem run_look {s : Tailing} (h : s.phase = .resting) (before after : List (List UInt8)) :
    let then' := s.disk.appendAll s.follower.path before
    (s.run (look before after)).phase = .resting ∧
      (s.run (look before after)).follower = (s.follower.lookAcross s.disk then').1 := by
  intro then'
  have hlook : s.run (look before after) =
      ((((s.proceed).run (before.map .append)).proceed).run (after.map .append)).proceed := by
    rw [look, run_append, run_append]
    rfl
  rw [hlook, run_appends, run_appends]
  simp only [proceed, h]
  exact ⟨trivial, rfl⟩

/-- A look has seen what was there when it began, and no more than was there when it read. -/
theorem seen_look {s : Tailing} {old now : File} (h : s.Sound old now) (hr : s.phase = .resting)
    (before after : List (List UInt8)) :
    now.bytes.length ≤ (s.run (look before after)).follower.seen ∧
      (s.run (look before after)).follower.seen ≤ now.bytes.length + before.flatten.length := by
  obtain ⟨taken, htaken, hgrows, hbytes⟩ := Disk.file?_appendAll h.there before
  obtain ⟨⟨seen, htracks, hle, hge⟩, -, -⟩ :=
    Follower.look_of_growsTo h.tracks h.closed h.there htaken h.between.growsTo hgrows
  rw [(run_look hr before after).2, htracks.seen]
  have hlen := congrArg List.length hbytes
  rw [List.length_append] at hlen
  exact ⟨hle.bytes.length_le, hlen ▸ hge.bytes.length_le⟩

/-- A look that no writer disturbs sees all that is there. -/
theorem lines_quiet {s : Tailing} {old now : File} (h : s.Sound old now) (hr : s.phase = .resting) :
    (s.run (look [] [])).follower.lines.toList = (linesOf (completePart now.bytes)).1 := by
  obtain ⟨old', now', hsound, hbytes⟩ := sound_run h (look [] [])
  obtain ⟨hge, hle⟩ := seen_look h hr [] []
  have hnow : now'.bytes = now.bytes := by simpa [look, written] using hbytes
  have hseen : (s.run (look [] [])).follower.seen = now.bytes.length := Nat.le_antisymm hle hge
  rw [hsound.lines, hnow, hseen, List.take_length]

/-- **Following a file that is only appended to.** Let the file be empty or end with a newline when it is opened,
and let a writer and a follower take turns in any way. No notice is other than of growth. The lines are those of
the bytes seen, up to their last newline, and a look has seen all that was there when it began. So once a last
look has been left undisturbed the lines depend on nothing but what has been written in all. -/
theorem tailed_lines (path : String) (disk : Disk) (opened : File) (turns : List Turn)
    (hfile : disk.file? path = some opened) (hcomplete : isComplete opened.bytes = true) :
    let s := run { disk, follower := .ofFile path opened } turns
    let bytes := opened.bytes ++ written turns
    Follower.open? disk path = .ok (.ofFile path opened) ∧
    (∀ c ∈ s.told, c.effect = .append c.old c.new) ∧
    s.follower.seen ≤ bytes.length ∧
    s.follower.lines.toList = (linesOf (completePart (bytes.take s.follower.seen))).1 ∧
    (s.phase = .resting →
      (∀ before after : List (List UInt8),
        let t := s.run (look before after)
        t.phase = .resting ∧ bytes.length ≤ t.follower.seen ∧
          t.follower.seen ≤ bytes.length + before.flatten.length) ∧
      ∀ (disk' : Disk) (opened' : File) (turns' : List Turn),
        disk'.file? path = some opened' → isComplete opened'.bytes = true →
        opened'.bytes ++ written turns' = bytes →
        let s' := run { disk := disk', follower := .ofFile path opened' } turns'
        s'.phase = .resting →
          (s.run (look [] [])).follower.lines = (s'.run (look [] [])).follower.lines) := by
  intro s bytes
  obtain ⟨old, now, hsound, hnow⟩ := sound_run (sound_start hfile hcomplete) turns
  have hbytes : now.bytes = bytes := hnow
  refine ⟨?_, hsound.told, ?_, ?_, fun hr => ⟨fun before after => ?_, ?_⟩⟩
  · rw [Disk.file?_eq_some_iff] at hfile
    unfold Follower.open?
    rw [hfile]
  · rw [hsound.tracks.seen, ← hbytes]
    exact hsound.between.growsTo.bytes.length_le
  · rw [← hbytes]
    exact hsound.lines
  · have hseen := seen_look hsound hr before after
    rw [hbytes] at hseen
    exact ⟨(run_look hr before after).1, hseen⟩
  · intro disk' opened' turns' hfile' hcomplete' hsame s' hr'
    obtain ⟨old', now', hsound', hbytes'⟩ := sound_run (sound_start hfile' hcomplete') turns'
    rw [← Array.toList_inj, lines_quiet hsound hr, lines_quiet hsound' hr', hbytes, hbytes', hsame]

/-- A log of one line, and a follower that has opened it. -/
def begun : Tailing where
  disk := ({} : Disk).rotate "app.log" [97, 10]
  follower := .ofFile "app.log" ⟨0, [97, 10], 0⟩

/-- Bytes come before every step of a look, and cut a character, a line end and a line; at last the follower
is left alone. -/
def brokenUp : List Turn :=
  [.append [195], .proceed, .append [169, 13], .proceed, .append [10, 98], .proceed, .proceed, .append [10, 99],
    .proceed, .proceed]

theorem tailed_lines_brokenUp :
    begun.disk.file? "app.log" = some ⟨0, [97, 10], 0⟩ ∧ isComplete [97, 10] = true ∧
      (begun.run brokenUp).follower.lines.toList = ["a", "é", "b"] ∧
      (begun.run brokenUp).follower.lines.toList = (linesOf (completePart
        (([97, 10] ++ written brokenUp).take (begun.run brokenUp).follower.seen))).1 := by
  have hfile : begun.disk.file? "app.log" = some ⟨0, [97, 10], 0⟩ := by decide
  have hcomplete : isComplete [97, 10] = true := by decide
  obtain ⟨-, -, -, hlines, -⟩ := tailed_lines "app.log" begun.disk ⟨0, [97, 10], 0⟩ brokenUp hfile hcomplete
  exact ⟨hfile, hcomplete, by decide +kernel, hlines⟩

end Tailing

end LogTable
