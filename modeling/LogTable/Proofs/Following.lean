import Mathlib.Data.List.Chain
import LogTable.Proofs.Refresh

/-!
# Following a file loses, doubles and mixes no line

A follower opens the file at a path and looks at it again from time to time. Between two looks the disk
may change in any way at all: the file may grow, be cut, be written anew, be replaced by another one, be
gone for a while or make room for a directory. A history is therefore the list of the disks that the looks
find, and `filesAt` keeps of it the files that stood at the path.

A follower cannot see every change. What it relies on is `File.Continues`, from each file it finds to the
next one: that is another file, or is shorter, or goes on with the bytes that were there.

`Tracks` is what a follower knows of the file it found last. Opening establishes it (`tracks_ofFile`), a
look keeps it (`tracks_look`), and so does a history (`tracks_lookAll`). Hence at any time the lines are the
first lines of that file, all but perhaps the last one, which has no newline (`followed_lines`).
-/
namespace LogTable

/-- What may stand at the path instead of a file seen before, so that its lines are told right. -/
def File.Continues (old new : File) : Prop :=
  new.identity ≠ old.identity ∨ new.bytes.length < old.bytes.length ∨ old.bytes <+: new.bytes

instance (old new : File) : Decidable (old.Continues new) := by unfold File.Continues; infer_instance

/-- The files that stand at a path, one disk after the other. -/
def filesAt (path : String) (disks : List Disk) : List File := disks.filterMap (·.file? path)

namespace Follower

/-- The follower after it has looked at the disk. A look that fails leaves it as it was. -/
def look (f : Follower) (disk : Disk) : Follower :=
  match (f.refresh disk).value with
  | .ok (g, _) => g
  | .error _ => f

def lookAll (f : Follower) (disks : List Disk) : Follower := disks.foldl look f

theorem look_path (f : Follower) (disk : Disk) : (f.look disk).path = f.path := by
  unfold look
  split
  · rename_i g changes h
    exact (looked_of_refreshAcross h).path
  · rfl

/-- What a follower knows of the file it found last. -/
structure Tracks (f : Follower) (file : File) : Prop where
  identity : f.identity = file.identity
  seen : f.seen = file.bytes.length
  read_le : f.read ≤ file.bytes.length
  lines : f.lines.toList = (linesOf (file.bytes.take f.read)).1
  rest : newline ∉ file.bytes.drop f.read
  /-- Lines are read on from behind a newline only. -/
  closed : f.openTail = false → isComplete (file.bytes.take f.read) = true
  /-- A last line without newline is shown only when the file has been read to its end. -/
  whole : f.openTail = true → f.read = file.bytes.length

theorem tracks_ofFile (path : String) (file : File) : (ofFile path file).Tracks file where
  identity := rfl
  seen := rfl
  read_le := Nat.le_refl _
  lines := by simp [ofFile]
  rest := by simp [ofFile]
  closed := by simp [ofFile, linesOf]
  whole := fun _ => rfl

/-! ## One look -/

/-- The file is as long as before and goes on with its bytes: they are the same. -/
theorem tracks_same {f : Follower} {old new : File} (h : f.Tracks old) (hi : new.identity = f.identity)
    (hp : old.bytes <+: new.bytes) (hl : new.bytes.length = f.seen) : f.Tracks new := by
  have hb : old.bytes = new.bytes := hp.eq_of_length (by rw [hl, h.seen])
  refine { h with identity := hi.symm, seen := hl.symm, read_le := ?_, lines := ?_, rest := ?_,
                  closed := ?_, whole := ?_ } <;> rw [← hb]
  · exact h.read_le
  · exact h.lines
  · exact h.rest
  · exact h.closed
  · exact h.whole

/-- Reading on from behind the last newline: the lines of the new complete part come behind the others. -/
theorem tracks_takeTail {f : Follower} {old new : File} (h : f.Tracks old) (hi : new.identity = f.identity)
    (hp : old.bytes <+: new.bytes) (ho : f.openTail = false) :
    (f.takeTail (new.bytes.drop f.read)).1.Tracks new := by
  have hlen : old.bytes.length ≤ new.bytes.length := hp.length_le
  have hread := h.read_le
  have hseen : f.read + (new.bytes.drop f.read).length = new.bytes.length := by
    rw [List.length_drop]; omega
  have htake : new.bytes.take f.read = old.bytes.take f.read := by
    obtain ⟨more, hmore⟩ := hp
    rw [← hmore, List.take_append_of_le_length hread]
  have hclosed : isComplete (new.bytes.take f.read) = true := htake ▸ h.closed ho
  -- the bytes behind the read ones, cut behind their last newline
  have hcut := completePart_append_heldPart (new.bytes.drop f.read)
  unfold takeTail
  simp only
  split
  · rename_i hempty
    refine ⟨hi.symm, hseen, by simp only; omega, ?_, ?_, ?_, ?_⟩
    · simp only [htake]; exact h.lines
    · exact (completePart_isEmpty_iff _).1 hempty
    · exact fun _ => hclosed
    · intro ho'; simp only [ho, Bool.false_eq_true] at ho'
  · generalize hc : completePart (new.bytes.drop f.read) = complete at hcut
    have hle : f.read + complete.length ≤ new.bytes.length := by
      have := congrArg List.length hcut
      rw [List.length_append] at this
      omega
    have htake' : new.bytes.take (f.read + complete.length) = new.bytes.take f.read ++ complete := by
      rw [List.take_add, ← hcut, List.take_left' rfl]
    refine ⟨hi.symm, hseen, hle, ?_, ?_, ?_, ?_⟩
    · simp only [Lines.extend, Lines.changeTo, htake']
      rw [linesOf_append complete hclosed, htake, ← h.lines]
      simp
    · simp only
      rw [← List.drop_drop, ← hcut, List.drop_left' rfl]
      exact newline_not_mem_heldPart _
    · simp only [htake']
      exact fun _ => isComplete_append hclosed (hc ▸ isComplete_completePart _)
    · intro ho'; simp only [ho, Bool.false_eq_true] at ho'

/-- The file is the one seen before and no shorter: it goes on with the bytes that were there. -/
theorem Tracks.prefix_of_continues {f : Follower} {old new : File} (h : f.Tracks old)
    (hc : old.Continues new) (hi : new.identity = f.identity) (hl : f.seen ≤ new.bytes.length) :
    old.bytes <+: new.bytes := by
  rcases hc with hc | hc | hc
  · exact absurd (hi.trans h.identity) hc
  · rw [h.seen] at hl; omega
  · exact hc

theorem tracks_look {f : Follower} {old new : File} {disk : Disk} (h : f.Tracks old)
    (hd : disk.file? f.path = some new) (hc : old.Continues new) : (f.look disk).Tracks new := by
  obtain ⟨⟨g, changes⟩, hok⟩ := (f.refresh_ok_iff disk).2 ⟨new, hd⟩
  have hg : f.look disk = g := by unfold look; rw [hok]
  rw [Disk.file?_eq_some_iff] at hd
  rw [hg]
  cases looked_of_refreshAcross hok with
  | idle node hn hp =>
    rw [hd] at hn; cases hn
    obtain ⟨hi, hl⟩ := plan_eq_idle hp
    exact tracks_same h hi (h.prefix_of_continues hc hi (Nat.le_of_eq hl.symm)) hl
  | reload node file hn hp hr =>
    rw [hd] at hr; cases hr
    exact tracks_ofFile f.path new
  | readTail node file hn hp hr =>
    rw [hd] at hn hr; cases hn; cases hr
    obtain ⟨hi, hl, ho⟩ := plan_eq_readTail hp
    exact tracks_takeTail h hi (h.prefix_of_continues hc hi (Nat.le_of_lt hl)) ho

/-! ## A whole history -/

theorem lookAll_path (f : Follower) (disks : List Disk) : (f.lookAll disks).path = f.path := by
  unfold lookAll
  induction disks generalizing f with
  | nil => rfl
  | cons d disks ih => rw [List.foldl_cons, ih, look_path]

theorem look_of_no_file {f : Follower} {disk : Disk} (h : disk.file? f.path = none) : f.look disk = f := by
  unfold look
  split
  · rename_i g changes hok
    obtain ⟨file, hf⟩ := (f.refresh_ok_iff disk).1 ⟨_, hok⟩
    rw [h] at hf; cases hf
  · rfl

/-- The induction is on the disks; the file tracked is the last one found so far. -/
theorem tracks_lookAll {f : Follower} {file : File} (h : f.Tracks file) (disks : List Disk)
    (hc : (file :: filesAt f.path disks).IsChain File.Continues) :
    ∃ last, (file :: filesAt f.path disks).getLast? = some last ∧ (f.lookAll disks).Tracks last := by
  induction disks generalizing f file with
  | nil => exact ⟨file, rfl, h⟩
  | cons d disks ih =>
    have hstep : f.lookAll (d :: disks) = (f.look d).lookAll disks := rfl
    rw [hstep]
    cases hd : d.file? f.path with
    | none =>
      have hfiles : filesAt f.path (d :: disks) = filesAt f.path disks := by simp [filesAt, hd]
      rw [hfiles] at hc ⊢
      rw [look_of_no_file hd]
      exact ih h hc
    | some new =>
      have hfiles : filesAt f.path (d :: disks) = new :: filesAt (f.look d).path disks := by
        simp [filesAt, hd, look_path]
      rw [hfiles] at hc ⊢
      obtain ⟨hcont, hc⟩ := List.isChain_cons_cons.1 hc
      rw [List.getLast?_cons_cons]
      exact ih (tracks_look h hd hcont) hc

/-! ## The lines -/

/-- All lines of the file are there, but for what stands behind its last newline. -/
theorem Tracks.lines_eq {f : Follower} {file : File} (h : f.Tracks file) :
    f.lines.toList = (linesOf file.bytes).1.take f.lines.size ∧
      file.bytes.count newline ≤ f.lines.size := by
  have hsize : f.lines.size = (linesOf (file.bytes.take f.read)).1.length := by
    rw [← h.lines, Array.length_toList]
  cases ho : f.openTail with
  | true =>
    have hall : file.bytes.take f.read = file.bytes := by rw [h.whole ho, List.take_length]
    rw [hall, length_linesOf] at hsize
    refine ⟨?_, by omega⟩
    rw [h.lines, hall, List.take_of_length_le (by rw [length_linesOf]; omega)]
  | false =>
    have hcut := List.take_append_drop f.read file.bytes
    have hcount : file.bytes.count newline = (file.bytes.take f.read).count newline := by
      have := congrArg (List.count newline) hcut
      rw [List.count_append, List.count_eq_zero.2 h.rest, Nat.add_zero] at this
      exact this.symm
    have hlines : (linesOf file.bytes).1 =
        (linesOf (file.bytes.take f.read)).1 ++ (linesOf (file.bytes.drop f.read)).1 := by
      rw [← linesOf_append _ (h.closed ho), hcut]
    refine ⟨?_, ?_⟩
    · rw [hlines, hsize, List.take_left' rfl, h.lines]
    · rw [hcount, hsize, length_linesOf]
      exact Nat.le_add_right _ _

theorem open?_ok {disk : Disk} {path : String} {f : Follower} (h : open? disk path = .ok f) :
    ∃ file, disk.file? path = some file ∧ f = ofFile path file := by
  unfold open? at h
  split at h
  · cases h
  · cases h
  · rename_i file hr
    cases h
    exact ⟨file, Disk.file?_eq_some_iff.2 hr, rfl⟩

/-- **The lines of a followed file.** Take any history in which each file found continues the one found
before it. Then the lines are at any time the first lines of the file found last, at least as many as it
has newlines. A look fails only when no file is at the path, and then nothing changes. -/
theorem followed_lines (path : String) (first : Disk) (later : List Disk) (f : Follower)
    (hopen : open? first path = .ok f)
    (hfiles : (filesAt path (first :: later)).IsChain File.Continues) :
    ∃ file, (filesAt path (first :: later)).getLast? = some file ∧
      (f.lookAll later).lines.toList = (linesOf file.bytes).1.take (f.lookAll later).lines.size ∧
      file.bytes.count newline ≤ (f.lookAll later).lines.size ∧
      ∀ disk, ((∃ r, ((f.lookAll later).refresh disk).value = .ok r) ↔ ∃ file, disk.file? path = some file) ∧
        (disk.file? path = none → (f.lookAll later).look disk = f.lookAll later) := by
  obtain ⟨opened, hd, rfl⟩ := open?_ok hopen
  have hpath : ((ofFile path opened).lookAll later).path = path := lookAll_path _ _
  have hcons : filesAt path (first :: later) = opened :: filesAt path later := by simp [filesAt, hd]
  rw [hcons] at hfiles ⊢
  obtain ⟨last, hlast, htracks⟩ := tracks_lookAll (tracks_ofFile path opened) later hfiles
  refine ⟨last, hlast, htracks.lines_eq.1, htracks.lines_eq.2, ?_⟩
  intro disk
  have hok := ((ofFile path opened).lookAll later).refresh_ok_iff disk
  rw [hpath] at hok
  exact ⟨hok, fun hnone => look_of_no_file (by rw [hpath]; exact hnone)⟩

/-- A log whose last line has no newline. -/
def openedLog : Disk := ({} : Disk).rotate "app.log" [97, 10, 98]

/-- It grows, is gone for a while, is cut and is replaced; the other one grows within a line end, makes room
for a directory, comes back, and ends with a line that is held back. -/
def laterLogs : List Disk :=
  let grown := openedLog.append "app.log" [99, 13]
  let cut := grown.truncate "app.log" 2
  let other := cut.rotate "app.log" [100, 10]
  let begun := other.append "app.log" [101, 13]
  let ended := begun.append "app.log" [10, 102]
  [grown, {}, cut, other, begun, begun.mkdir "app.log", ended]

theorem followed_lines_laterLogs : ∃ f file, open? openedLog "app.log" = .ok f ∧
    (filesAt "app.log" (openedLog :: laterLogs)).IsChain File.Continues ∧
    (filesAt "app.log" (openedLog :: laterLogs)).getLast? = some file ∧
    (f.lookAll laterLogs).lines.toList = (linesOf file.bytes).1.take (f.lookAll laterLogs).lines.size ∧
    file.bytes.count newline ≤ (f.lookAll laterLogs).lines.size := by
  obtain ⟨file, hlast, hlines, hcount, -⟩ :=
    followed_lines "app.log" openedLog laterLogs _ rfl (by decide)
  exact ⟨_, file, rfl, by decide, hlast, hlines, hcount⟩

end Follower

end LogTable
