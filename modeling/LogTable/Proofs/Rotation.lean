import LogTable.Proofs.Tailing

/-!
# Rotation between two steps of a look

A log is rotated when its file goes away and another one comes to its path. A follower tells the two apart by their
identity, and reads another file from the start. It takes the identity when it looks at the path; if there is more of
the same file, it goes to the path again to read what is new. A rotation that falls between these two steps has it
read the other file from behind as many bytes as it had read of the first. If a newline stands there, lines of both
files are mixed (`Follower.mixes`), under the identity of the first.

A file that is read from the start gives its identity and its bytes in one step, so there is nothing to come between
them. A follower that has gone astray in this way finds a later identity at its next look, and reads all of that
file.

* `Disk.Evolves`: what a change of the disk can do to what is at the path.
* `Standing`: how the follower stands to the files that have been at the path. With it comes a condition on disks,
  that their file is no earlier than what has been read (`Disk.Follows`), or another one (`Disk.Strays`).
* `Rotating.Sound`: what all changes of the disk and all steps of the looks keep.

Results: `Rotating.lines_of_one_file_unless_torn`, and `Rotating.torn_lines` with a rotation at the wrong time.
-/
namespace LogTable

/-! ## What follows a file -/

/-- It has grown, or another one has come since. Identities are given in the order in which files come to be. -/
def File.Before (old new : File) : Prop := old.GrowsTo new ∨ old.identity < new.identity

theorem File.Before.trans {a b c : File} (h₁ : a.Before b) (h₂ : b.Before c) : a.Before c := by
  rcases h₁ with h₁ | h₁ <;> rcases h₂ with h₂ | h₂
  · exact .inl (h₁.trans h₂)
  · exact .inr (h₁.identity ▸ h₂)
  · exact .inr (h₂.identity.symm ▸ h₁)
  · exact .inr (Nat.lt_trans h₁ h₂)

theorem File.Before.identity_le {old new : File} (h : old.Before new) : old.identity ≤ new.identity := by
  rcases h with h | h
  · exact Nat.le_of_eq h.identity.symm
  · exact Nat.le_of_lt h

namespace Disk

/-- What is at the path was there before and has perhaps grown, or it has come with this change. -/
structure Evolves (path : String) (d later : Disk) : Prop where
  clock : d.clock < later.clock
  file : ∀ g, later.file? path = some g →
    (∃ f, d.file? path = some f ∧ f.GrowsTo g) ∨ g.identity = d.clock

theorem evolves_rotate (d : Disk) (path : String) (bytes : List UInt8) : d.Evolves path (d.rotate path bytes) where
  clock := Nat.lt_succ_self _
  file := fun g hg => by
    have hput := eq_of_file?_put hg
    cases hput
    exact .inr rfl

theorem evolves_append (d : Disk) (path : String) (bytes : List UInt8) : d.Evolves path (d.append path bytes) := by
  cases hf : d.file? path with
  | none =>
    have happend : d.append path bytes = d.rotate path bytes := by
      unfold append change
      rw [hf]
      rfl
    rw [happend]
    exact evolves_rotate d path bytes
  | some f =>
    refine ⟨?_, fun g hg => ?_⟩
    · unfold append change
      rw [hf]
      exact Nat.lt_succ_self _
    · rw [file?_append hf] at hg
      cases hg
      exact .inl ⟨f, hf, rfl, List.prefix_append _ _⟩

theorem evolves_remove (d : Disk) (path : String) : d.Evolves path (d.remove path) where
  clock := Nat.lt_succ_self _
  file := fun g hg => by
    rw [file?_remove] at hg
    cases hg

/-- What is at the path now or later is this file, perhaps grown, or one that has come since. -/
structure Follows (path : String) (old : File) (d : Disk) : Prop where
  dated : old.identity < d.clock
  before : ∀ g, d.file? path = some g → old.Before g

/-- What is at the path now or later has come since the file of this identity. -/
structure Strays (path : String) (identity : Nat) (d : Disk) : Prop where
  dated : identity < d.clock
  later : ∀ g, d.file? path = some g → identity < g.identity

theorem Follows.evolve {path : String} {old : File} {d later : Disk} (h : d.Follows path old)
    (he : d.Evolves path later) : later.Follows path old where
  dated := Nat.lt_trans h.dated he.clock
  before := fun g hg => by
    rcases he.file g hg with ⟨f, hf, hgrows⟩ | hnew
    · exact (h.before f hf).trans (.inl hgrows)
    · exact .inr (hnew ▸ h.dated)

theorem Strays.evolve {path : String} {identity : Nat} {d later : Disk} (h : d.Strays path identity)
    (he : d.Evolves path later) : later.Strays path identity where
  dated := Nat.lt_trans h.dated he.clock
  later := fun g hg => by
    rcases he.file g hg with ⟨f, hf, hgrows⟩ | hnew
    · exact hgrows.identity.symm ▸ h.later f hf
    · exact hnew ▸ h.dated

/-- A disk follows what is on it. -/
theorem follows_here {path : String} {file : File} {d : Disk} (h : d.file? path = some file)
    (hdated : file.identity < d.clock) : d.Follows path file where
  dated := hdated
  before := fun g hg => by
    rw [h] at hg
    cases hg
    exact .inl (.refl file)

/-- After a file of a later identity everything is of a later identity. -/
theorem Follows.strays {path : String} {file : File} {identity : Nat} {d : Disk} (h : d.Follows path file)
    (hlt : identity < file.identity) : d.Strays path identity where
  dated := Nat.lt_trans hlt h.dated
  later := fun g hg => Nat.lt_of_lt_of_le hlt (h.before g hg).identity_le

end Disk

/-! ## Lines of one file and of two -/

theorem mem_filesAt {path : String} {disks : List Disk} {disk : Disk} {file : File} (hd : disk ∈ disks)
    (hf : disk.file? path = some file) : file ∈ filesAt path disks :=
  List.mem_filterMap.2 ⟨disk, hd, hf⟩

theorem mem_filesAt_cons {path : String} {disks : List Disk} {file : File} (disk : Disk)
    (h : file ∈ filesAt path disks) : file ∈ filesAt path (disk :: disks) := by
  obtain ⟨d, hd, hf⟩ := List.mem_filterMap.1 h
  exact mem_filesAt (List.mem_cons_of_mem disk hd) hf

/-- They are the first lines of what one file was at some time. -/
def OfOneFile (files : List File) (lines : List String) : Prop :=
  ∃ file ∈ files, lines <+: (linesOf file.bytes).1

/-- The lines of the first bytes of one file stand before lines that another file has behind as many bytes. -/
def OfTwoFiles (files : List File) (lines : List String) : Prop :=
  ∃ one ∈ files, ∃ other ∈ files, ∃ n, one.identity < other.identity ∧
    0 < n ∧ n ≤ one.bytes.length ∧ newline ∈ other.bytes.drop n ∧
    lines = (linesOf (one.bytes.take n)).1 ++ (linesOf (completePart (other.bytes.drop n))).1

theorem OfOneFile.mono {files more : List File} {lines : List String} (h : OfOneFile files lines)
    (hm : ∀ file ∈ files, file ∈ more) : OfOneFile more lines := by
  obtain ⟨file, hfile, hlines⟩ := h
  exact ⟨file, hm file hfile, hlines⟩

theorem OfTwoFiles.mono {files more : List File} {lines : List String} (h : OfTwoFiles files lines)
    (hm : ∀ file ∈ files, file ∈ more) : OfTwoFiles more lines := by
  obtain ⟨one, hone, other, hother, rest⟩ := h
  exact ⟨one, hm one hone, other, hm other hother, rest⟩

namespace Follower

/-- Whether a look puts lines of another file behind those that there are. -/
def mixes (f : Follower) (first then' : Disk) : Bool :=
  match first.read f.path, then'.file? f.path with
  | .ok found, some taken =>
    f.plan found = .readTail && taken.identity ≠ f.identity && 0 < f.read && newline ∈ taken.bytes.drop f.read
  | _, _ => false

/-- The file is looked at and read on from, but another one is read. -/
theorem mixes_iff (f : Follower) (first then' : Disk) :
    f.mixes first then' = true ↔ ∃ found taken, first.file? f.path = some found ∧
      then'.file? f.path = some taken ∧ f.plan (.file found) = .readTail ∧
      taken.identity ≠ found.identity ∧ 0 < f.read ∧ newline ∈ taken.bytes.drop f.read := by
  constructor
  · intro h
    unfold mixes at h
    split at h
    · rename_i node taken hn ht
      simp only [ne_eq, Bool.and_eq_true, decide_eq_true_eq, and_assoc] at h
      obtain ⟨hp, hne, hread, hnl⟩ := h
      cases node with
      | directory => cases hp
      | file found =>
        have hsame := (plan_eq_readTail hp).1
        exact ⟨found, taken, Disk.file?_eq_some_iff.2 hn, ht, hp, fun he => hne (he.trans hsame), hread, hnl⟩
    · cases h
  · rintro ⟨found, taken, hf, ht, hp, hne, hread, hnl⟩
    have hsame := (plan_eq_readTail hp).1
    unfold mixes
    rw [Disk.file?_eq_some_iff.1 hf, ht]
    simpa [hp, hread, hnl] using fun he : taken.identity = f.identity => hne (he.trans hsame.symm)

theorem mixes_iff_of_plan {f : Follower} {first then' : Disk} {found taken : File}
    (hf : first.file? f.path = some found) (ht : then'.file? f.path = some taken)
    (hp : f.plan (.file found) = .readTail) :
    f.mixes first then' = true ↔
      taken.identity ≠ found.identity ∧ 0 < f.read ∧ newline ∈ taken.bytes.drop f.read := by
  simp [mixes_iff, hf, ht, hp]

/-- Of a look that does not read on nothing is mixed. -/
theorem mixes_eq_false_of_plan {f : Follower} {first then' : Disk} {node : Node} (h : first.read f.path = .ok node)
    (hp : f.plan node ≠ .readTail) : f.mixes first then' = false := by
  rw [← Bool.not_eq_true, mixes_iff]
  rintro ⟨found, taken, hf, -, hplan, -⟩
  rw [Disk.file?_eq_some_iff, h] at hf
  cases hf
  exact hp hplan

/-- A look that mixes lines succeeds. -/
theorem refreshAcross_of_mixes {f : Follower} {first then' : Disk} (h : f.mixes first then' = true) :
    ∃ r, (f.refreshAcross first then').value = .ok r := by
  obtain ⟨found, taken, hf, ht, hp, -⟩ := (f.mixes_iff first then').1 h
  rw [Disk.file?_eq_some_iff] at hf ht
  unfold refreshAcross
  simp only [hf, hp, readTail, ht]
  exact ⟨_, rfl⟩

theorem takeTail_lines (f : Follower) (tail : List UInt8) :
    (f.takeTail tail).1.lines.toList = f.lines.toList ++ (linesOf (completePart tail)).1 := by
  unfold takeTail
  simp only
  split
  · rename_i h
    rw [List.isEmpty_iff.1 h]
    exact (List.append_nil _).symm
  · simp [Lines.extend, Lines.changeTo]

theorem takeTail_identity (f : Follower) (tail : List UInt8) : (f.takeTail tail).1.identity = f.identity := by
  unfold takeTail
  simp only
  split <;> rfl

theorem Tracks.lines_prefix {f : Follower} {file : File} (h : f.Tracks file) :
    f.lines.toList <+: (linesOf file.bytes).1 := by
  rw [h.lines_eq.1]
  exact List.take_prefix _ _

/-- The lines of the complete part are the first ones. -/
theorem linesOf_completePart_prefix (bytes : List UInt8) :
    (linesOf (completePart bytes)).1 <+: (linesOf bytes).1 := by
  have hlines := linesOf_append (heldPart bytes) (isComplete_completePart bytes)
  rw [completePart_append_heldPart] at hlines
  rw [hlines]
  exact List.prefix_append _ _

/-- How a follower stands to the files so far, whether its lines are mixed, and which disks may come. -/
inductive Standing (f : Follower) (files : List File) : Bool → (Disk → Prop) → Prop
  | tracks (old : File) : old ∈ files → f.Tracks old → Standing f files false (·.Follows f.path old)
  /-- Another file was read than the one that had been looked at. -/
  | astray (torn : Bool) : (torn = false → OfOneFile files f.lines.toList) →
    (torn = true → OfTwoFiles files f.lines.toList) → Standing f files torn (·.Strays f.path f.identity)

theorem Standing.mono {f : Follower} {files more : List File} {torn : Bool} {ahead : Disk → Prop}
    (h : f.Standing files torn ahead) (hm : ∀ file ∈ files, file ∈ more) : f.Standing more torn ahead := by
  cases h with
  | tracks old hold htracks => exact .tracks old (hm old hold) htracks
  | astray torn hone htwo => exact .astray torn (fun ht => (hone ht).mono hm) (fun ht => (htwo ht).mono hm)

theorem Standing.evolve {f : Follower} {files : List File} {torn : Bool} {ahead : Disk → Prop} {d later : Disk}
    (h : f.Standing files torn ahead) (hd : ahead d) (he : d.Evolves f.path later) : ahead later := by
  cases h with
  | tracks old _ _ => exact Disk.Follows.evolve hd he
  | astray _ _ _ => exact Disk.Strays.evolve hd he

theorem Standing.ofOneFile {f : Follower} {files : List File} {ahead : Disk → Prop}
    (h : f.Standing files false ahead) : OfOneFile files f.lines.toList := by
  cases h with
  | tracks old hold htracks => exact ⟨old, hold, htracks.lines_prefix⟩
  | astray _ hone _ => exact hone rfl

theorem Standing.ofTwoFiles {f : Follower} {files : List File} {ahead : Disk → Prop}
    (h : f.Standing files true ahead) : OfTwoFiles files f.lines.toList := by
  cases h with
  | astray _ _ htwo => exact htwo rfl

/-! ## What a look takes over -/

/-- A follower that has gone astray finds another file. -/
theorem plan_of_strays {f : Follower} {first : Disk} {node : Node} (h : first.Strays f.path f.identity)
    (hn : first.read f.path = .ok node) : f.plan node = .reload := by
  cases node with
  | directory => rfl
  | file found =>
    have hlt := h.later found (Disk.file?_eq_some_iff.2 hn)
    unfold plan
    simp only
    rw [if_pos (.inl (Nat.ne_of_gt hlt))]

/-- Then it reads all of that file, if any, and mixes nothing. -/
theorem mixes_eq_false_of_strays {f : Follower} {first : Disk} (h : first.Strays f.path f.identity) (then' : Disk) :
    f.mixes first then' = false := by
  rw [← Bool.not_eq_true, mixes_iff]
  rintro ⟨found, taken, hf, -, hplan, -⟩
  have hreload := plan_of_strays h (Disk.file?_eq_some_iff.1 hf)
  rw [hplan] at hreload
  cases hreload

/-- A follower that reads on in another file goes astray. It still has lines of one file only, if it had read nothing
of the first or finds no newline in the other. -/
theorem standing_takeTail_other {f : Follower} {files : List File} {old other : File} (hold : old ∈ files)
    (hother : other ∈ files) (h : f.Tracks old) (hlt : old.identity < other.identity) {torn : Bool}
    (htorn : torn = true ↔ 0 < f.read ∧ newline ∈ other.bytes.drop f.read) :
    (f.takeTail (other.bytes.drop f.read)).1.Standing files torn (·.Strays f.path f.identity) := by
  have hlines := f.takeTail_lines (other.bytes.drop f.read)
  have hpath := f.takeTail_path (other.bytes.drop f.read)
  have hidentity := f.takeTail_identity (other.bytes.drop f.read)
  rw [← hpath, ← hidentity]
  refine .astray torn (fun hwhole => ?_) (fun hmixed => ?_)
  · rw [hlines]
    by_cases hnl : newline ∈ other.bytes.drop f.read
    · -- nothing had been read of the first file, so the other one is read from the start
      have hread : f.read = 0 := by
        by_contra hpos
        have hmixed := htorn.2 ⟨Nat.pos_of_ne_zero hpos, hnl⟩
        rw [hwhole] at hmixed
        cases hmixed
      have hnone : f.lines.toList = [] := by
        rw [h.lines, hread]
        rfl
      rw [hnone, hread, List.drop_zero, List.nil_append]
      exact ⟨other, hother, linesOf_completePart_prefix other.bytes⟩
    · have hempty : completePart (other.bytes.drop f.read) = [] :=
        List.isEmpty_iff.1 ((completePart_isEmpty_iff _).2 hnl)
      rw [hempty]
      refine ⟨old, hold, ?_⟩
      simpa [linesOf, cutLines] using h.lines_prefix
  · obtain ⟨hpos, hnl⟩ := htorn.1 hmixed
    rw [hlines, h.lines]
    exact ⟨old, hold, other, hother, f.read, hlt, hpos, h.read_le, hnl, rfl⟩

/-- What a look does that succeeds. What is there now comes after the file that it reads. -/
theorem standing_look {f g : Follower} {files : List File} {torn : Bool} {ahead : Disk → Prop}
    {first then' now : Disk} {changes : List LineChange} (h : f.Standing files torn ahead)
    (hlook : (f.refreshAcross first then').value = .ok (g, changes))
    (hfirst : ahead first) (hthen : ahead then') (hnow : ahead now)
    (htaken : ∀ taken, then'.file? f.path = some taken → taken ∈ files ∧ now.Follows f.path taken) :
    ∃ ahead', g.Standing files (f.mixes first then') ahead' ∧ ahead' now := by
  cases looked_of_refreshAcross hlook with
  | idle node hn hp =>
    rw [mixes_eq_false_of_plan hn (by simp [hp])]
    cases h with
    | tracks old hold htracks => exact ⟨_, .tracks old hold htracks, hnow⟩
    | astray =>
      have hreload := plan_of_strays hfirst hn
      rw [hp] at hreload
      cases hreload
  | reload node file hn hp hr =>
    obtain ⟨hmem, hfollows⟩ := htaken file (Disk.file?_eq_some_iff.2 hr)
    rw [mixes_eq_false_of_plan hn (by simp [hp])]
    exact ⟨_, .tracks file hmem (tracks_ofFile f.path file), hfollows⟩
  | readTail node file hn hp hr =>
    have hfile := Disk.file?_eq_some_iff.2 hr
    obtain ⟨hmem, hfollows⟩ := htaken file hfile
    cases h with
    | astray =>
      have hreload := plan_of_strays hfirst hn
      rw [hp] at hreload
      cases hreload
    | tracks old hold htracks =>
      cases node with
      | directory => cases hp
      | file found =>
        obtain ⟨hsame, -, hopen⟩ := plan_eq_readTail hp
        have hfound := Disk.file?_eq_some_iff.2 hn
        have hmixes := mixes_iff_of_plan hfound hfile hp
        rcases Disk.Follows.before hthen file hfile with hgrows | hlt
        · have hstill : file.identity = f.identity := hgrows.identity.trans htracks.identity.symm
          have hwhole : f.mixes first then' = false := by
            rw [← Bool.not_eq_true, hmixes]
            exact fun hother => hother.1 (hstill.trans hsame.symm)
          have htail := tracks_takeTail htracks hstill hgrows.bytes hopen
          rw [hwhole]
          refine ⟨_, .tracks file hmem htail, ?_⟩
          rw [takeTail_path]
          exact hfollows
        · have hother : file.identity ≠ found.identity := by
            rw [hsame, htracks.identity]
            exact Nat.ne_of_gt hlt
          have htorn := hmixes.trans (and_iff_right hother)
          refine ⟨_, standing_takeTail_other hold hmem htracks hlt htorn, ?_⟩
          rw [htracks.identity]
          exact hfollows.strays hlt

end Follower

/-! ## A log that is rotated -/

/-- A follower and the disk it looks at. -/
structure Rotating where
  disk : Disk
  follower : Follower
  phase : Phase := .resting
  /-- All disks so far, this one among them. -/
  past : List Disk
  /-- Lines of two files are mixed. -/
  torn : Bool := false

/-- What a look has come upon comes after what the follower has read, and what it has read is there still. -/
def Phase.Ahead (ahead : Disk → Prop) (path : String) (past : List Disk) (now : Disk) : Phase → Prop
  | .resting => True
  | .looked first => ahead first
  | .read first then' => ahead first ∧ ahead then' ∧
    ∀ taken, then'.file? path = some taken → taken ∈ filesAt path past ∧ now.Follows path taken

namespace Rotating

inductive Turn
  | append (bytes : List UInt8)
  /-- Another file comes to the path. -/
  | rotate (bytes : List UInt8)
  | remove
  /-- The follower takes its next step. -/
  | proceed

def setDisk (s : Rotating) (disk : Disk) : Rotating := { s with disk, past := disk :: s.past }

def proceed (s : Rotating) : Rotating :=
  match s.phase with
  | .resting => { s with phase := .looked s.disk }
  | .looked first => { s with phase := .read first s.disk }
  | .read first then' =>
    match (s.follower.refreshAcross first then').value with
    | .ok (follower, _) => { s with follower, phase := .resting, torn := s.follower.mixes first then' }
    | .error _ => { s with phase := .resting }

def step (s : Rotating) : Turn → Rotating
  | .append bytes => s.setDisk (s.disk.append s.follower.path bytes)
  | .rotate bytes => s.setDisk (s.disk.rotate s.follower.path bytes)
  | .remove => s.setDisk (s.disk.remove s.follower.path)
  | .proceed => s.proceed

def run (s : Rotating) (turns : List Turn) : Rotating := turns.foldl step s

/-- The follower has just opened the file at the path. -/
def start (path : String) (disk : Disk) (opened : File) : Rotating :=
  { disk, follower := .ofFile path opened, past := [disk] }

/-- The files that have been at the path. -/
def files (s : Rotating) : List File := filesAt s.follower.path s.past

/-! ## One step -/

structure Sound (path : String) (s : Rotating) : Prop where
  path_eq : s.follower.path = path
  here : s.disk ∈ s.past
  dated : ∀ file, s.disk.file? path = some file → file.identity < s.disk.clock
  standing : ∃ ahead, s.follower.Standing s.files s.torn ahead ∧ ahead s.disk ∧
    s.phase.Ahead ahead path s.past s.disk

theorem sound_setDisk {path : String} {s : Rotating} (h : s.Sound path) {later : Disk}
    (he : s.disk.Evolves path later) : (s.setDisk later).Sound path := by
  obtain ⟨hpath, hhere, hdated, ahead, hstanding, hahead, hphase⟩ := h
  have hlater : ahead later := hstanding.evolve hahead (hpath ▸ he)
  refine ⟨hpath, List.mem_cons_self, fun g hg => ?_, ahead, ?_, hlater, ?_⟩
  · rcases he.file g hg with ⟨f, hf, hgrows⟩ | hnew
    · have hlt := hdated f hf
      have hclock := he.clock
      have hsame := hgrows.identity
      simp only [setDisk]
      omega
    · exact hnew ▸ he.clock
  · exact hstanding.mono fun file hfile => mem_filesAt_cons later hfile
  · simp only [setDisk]
    cases hp : s.phase with
    | resting => trivial
    | looked first =>
      rw [hp] at hphase
      exact hphase
    | read first then' =>
      rw [hp] at hphase
      obtain ⟨hfirst, hthen, htaken⟩ := hphase
      refine ⟨hfirst, hthen, fun taken ht => ?_⟩
      obtain ⟨hmem, hfollows⟩ := htaken taken ht
      exact ⟨mem_filesAt_cons later hmem, hfollows.evolve he⟩

theorem sound_proceed {path : String} {s : Rotating} (h : s.Sound path) : s.proceed.Sound path := by
  obtain ⟨disk, follower, phase, past, torn⟩ := s
  obtain ⟨hpath, hhere, hdated, ahead, hstanding, hahead, hphase⟩ := h
  cases phase with
  | resting => exact ⟨hpath, hhere, hdated, ahead, hstanding, hahead, hahead⟩
  | looked first =>
    refine ⟨hpath, hhere, hdated, ahead, hstanding, hahead, hphase, hahead, fun taken ht => ?_⟩
    exact ⟨mem_filesAt hhere ht, Disk.follows_here ht (hdated taken ht)⟩
  | read first then' =>
    obtain ⟨hfirst, hthen, htaken⟩ := hphase
    subst hpath
    unfold proceed
    simp only
    split
    · rename_i g changes hlook
      have hkept : g.path = follower.path := (Follower.looked_of_refreshAcross hlook).path
      obtain ⟨ahead', hafter, hnow⟩ := Follower.standing_look hstanding hlook hfirst hthen hahead htaken
      refine ⟨hkept, hhere, hdated, ahead', ?_, hnow, trivial⟩
      simp only [files, hkept]
      exact hafter
    · exact ⟨rfl, hhere, hdated, ahead, hstanding, hahead, trivial⟩

theorem sound_step {path : String} {s : Rotating} (h : s.Sound path) (turn : Turn) : (s.step turn).Sound path := by
  have hpath := h.path_eq
  cases turn with
  | append bytes => exact sound_setDisk h (hpath ▸ s.disk.evolves_append _ bytes)
  | rotate bytes => exact sound_setDisk h (hpath ▸ s.disk.evolves_rotate _ bytes)
  | remove => exact sound_setDisk h (hpath ▸ s.disk.evolves_remove _)
  | proceed => exact sound_proceed h

/-! ## Whole runs -/

theorem sound_start {path : String} {disk : Disk} {opened : File} (h : disk.file? path = some opened)
    (hdated : opened.identity < disk.clock) : (start path disk opened).Sound path where
  path_eq := rfl
  here := List.mem_cons_self
  dated := fun file hf => by
    have hsame : disk.file? path = some file := hf
    rw [h] at hsame
    cases hsame
    exact hdated
  standing := by
    have hmem : opened ∈ filesAt path [disk] := mem_filesAt List.mem_cons_self h
    exact ⟨_, .tracks opened hmem (Follower.tracks_ofFile path opened), Disk.follows_here h hdated, trivial⟩

theorem sound_run {path : String} {s : Rotating} (h : s.Sound path) (turns : List Turn) : (s.run turns).Sound path := by
  unfold run
  induction turns generalizing s with
  | nil => exact h
  | cons turn turns ih => exact ih (sound_step h turn)

/-- Only a look can mix lines. -/
theorem torn_step_iff {s : Rotating} (h : s.torn = false) (turn : Turn) :
    (s.step turn).torn = true ↔
      turn = .proceed ∧ ∃ first then', s.phase = .read first then' ∧ s.follower.mixes first then' = true := by
  cases turn with
  | append bytes => simp [step, setDisk, h]
  | rotate bytes => simp [step, setDisk, h]
  | remove => simp [step, setDisk, h]
  | proceed =>
    simp only [step, proceed, true_and]
    cases hp : s.phase with
    | resting => simp [h]
    | looked first => simp [h]
    | read first then' =>
      simp only [Phase.read.injEq]
      constructor
      · intro ht
        split at ht
        · exact ⟨first, then', ⟨rfl, rfl⟩, ht⟩
        · simp [h] at ht
      · rintro ⟨first', then'', ⟨rfl, rfl⟩, hmixes⟩
        obtain ⟨r, hr⟩ := Follower.refreshAcross_of_mixes hmixes
        rw [hr]
        exact hmixes

/-- A follower whose lines are mixed reads all of the file at its next look, if there is one. -/
theorem torn_proceed_of_torn {path : String} {s : Rotating} (h : s.Sound path) (ht : s.torn = true)
    {first then' : Disk} (hp : s.phase = .read first then') {r : Follower × List LineChange}
    (hr : (s.follower.refreshAcross first then').value = .ok r) : s.proceed.torn = false := by
  obtain ⟨ahead, hstanding, -, hphase⟩ := h.standing
  rw [ht] at hstanding
  rw [hp] at hphase
  simp only [proceed, hp, hr]
  cases hstanding with
  | astray => exact Follower.mixes_eq_false_of_strays hphase.1 then'

/-- **The lines are those of one file unless a rotation tears a look.** Let a log be appended to, removed and rotated,
and let a follower of it go on step by step, in any order. Unless they are mixed, its lines are the first ones of what
one single file at the path was at some time. They become mixed just if the look finds more of the followed file, the
reading finds another file, and a newline stands in that one behind the bytes that had been read. Then they are lines
of two files, with the later one's behind, until a look succeeds. -/
theorem lines_of_one_file_unless_torn {path : String} {disk : Disk} {opened : File} (turns : List Turn)
    (hfile : disk.file? path = some opened) (hdated : opened.identity < disk.clock) :
    let s := run (start path disk opened) turns
    (s.torn = false → OfOneFile s.files s.follower.lines.toList) ∧
    (s.torn = true → OfTwoFiles s.files s.follower.lines.toList) ∧
    (s.torn = false → ∀ turn, (s.step turn).torn = true ↔
      turn = .proceed ∧ ∃ first then' found taken, s.phase = .read first then' ∧
        first.file? path = some found ∧ then'.file? path = some taken ∧
        s.follower.plan (.file found) = .readTail ∧ taken.identity ≠ found.identity ∧
        0 < s.follower.read ∧ newline ∈ taken.bytes.drop s.follower.read) ∧
    (s.torn = true → ∀ first then' r, s.phase = .read first then' →
      (s.follower.refreshAcross first then').value = .ok r → s.proceed.torn = false) := by
  intro s
  have hsound : s.Sound path := sound_run (sound_start hfile hdated) turns
  obtain ⟨ahead, hstanding, -, -⟩ := hsound.standing
  refine ⟨fun hwhole => ?_, fun htorn => ?_, fun hwhole turn => ?_, fun htorn first then' r hp hr => ?_⟩
  · rw [hwhole] at hstanding
    exact hstanding.ofOneFile
  · rw [htorn] at hstanding
    exact hstanding.ofTwoFiles
  · simp only [torn_step_iff hwhole turn, Follower.mixes_iff, hsound.path_eq, exists_and_left]
  · exact torn_proceed_of_torn hsound htorn hp hr

/-- A log of one line that grows while it is followed. A file of two lines takes its place between a look at the path
and the reading. -/
def rotatedWithin : List Turn :=
  [.append [98, 10], .proceed, .rotate [120, 120, 120, 10, 121, 121, 121, 10], .proceed, .proceed]

theorem lines_of_one_file_unless_torn_rotatedWithin :
    let disk := ({} : Disk).rotate "app.log" [97, 10]
    let opened : File := ⟨0, [97, 10], 0⟩
    let s := run (start "app.log" disk opened) (rotatedWithin ++ [.proceed, .proceed, .append [122, 10], .proceed])
    disk.file? "app.log" = some opened ∧ opened.identity < disk.clock ∧ s.torn = false ∧
      OfOneFile s.files s.follower.lines.toList := by
  intro disk opened s
  have hfile : disk.file? "app.log" = some opened := by decide
  have hdated : opened.identity < disk.clock := by decide
  have hwhole : s.torn = false := by decide +kernel
  exact ⟨hfile, hdated, hwhole, (lines_of_one_file_unless_torn _ hfile hdated).1 hwhole⟩

/-- The first line is of the one file and the others are of the other, and no file has ever had such lines. -/
theorem torn_lines :
    let s := run (start "app.log" (({} : Disk).rotate "app.log" [97, 10]) ⟨0, [97, 10], 0⟩) rotatedWithin
    s.follower.lines.toList = ["a", "x", "yyy"] ∧ s.torn = true ∧
      ∀ file ∈ s.files, ¬ s.follower.lines.toList <+: (linesOf file.bytes).1 := by
  decide +kernel

end Rotating

end LogTable
