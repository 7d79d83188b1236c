import LogTable.Source.Follower
import LogTable.Proofs.Splitting
import LogTable.Proofs.Storage

/-!
# What one look at the file does

A look that succeeds takes one of three ways, and each of them reads the file at the follower's path:
`Looked` lists them, with what decides between them, and `looked_of_refreshAcross` says that there are no
others, also when the disk changes between looking and reading. While nobody writes, a look succeeds just
if a file stands at the path (`refresh_ok_iff`).

`Told` says how a list of changes accounts for the new lines; every look gives such a list
(`Looked.told`).
-/
namespace LogTable

namespace Follower

/-- The ways a look can take that succeeds: it looks at the disk `first` and reads from the disk `then'`. -/
inductive Looked (f : Follower) (first then' : Disk) : Follower → List LineChange → Prop
  | idle (node : Node) :
    first.read f.path = .ok node → f.plan node = .idle → Looked f first then' f []
  | reload (node : Node) (file : File) :
    first.read f.path = .ok node → f.plan node = .reload → then'.read f.path = .ok (.file file) →
    Looked f first then' (f.takeAll file).1 (f.takeAll file).2
  | readTail (node : Node) (file : File) :
    first.read f.path = .ok node → f.plan node = .readTail → then'.read f.path = .ok (.file file) →
    Looked f first then' (f.takeTail (file.bytes.drop f.read)).1 (f.takeTail (file.bytes.drop f.read)).2

/-! ## The plan -/

theorem plan_eq_idle {f : Follower} {file : File} (h : f.plan (.file file) = .idle) :
    file.identity = f.identity ∧ file.bytes.length = f.seen := by
  unfold plan at h
  simp only at h
  split at h
  · cases h
  · rename_i hne
    split at h
    · rename_i hl
      exact ⟨not_not.1 fun e => hne (Or.inl e), hl⟩
    · split at h <;> cases h

theorem plan_eq_readTail {f : Follower} {file : File} (h : f.plan (.file file) = .readTail) :
    file.identity = f.identity ∧ f.seen < file.bytes.length ∧ f.openTail = false := by
  unfold plan at h
  simp only at h
  split at h
  · cases h
  · rename_i hne
    split at h
    · cases h
    · rename_i hl
      split at h
      · cases h
      · rename_i ho
        have hge : f.seen ≤ file.bytes.length := Nat.le_of_not_lt fun e => hne (Or.inr e)
        exact ⟨not_not.1 fun e => hne (Or.inl e), by omega, by simpa using ho⟩

/-! ## The look -/

theorem reload_ok {f g : Follower} {disk : Disk} {changes : List LineChange}
    (h : (f.reload disk).value = .ok (g, changes)) :
    ∃ file, disk.read f.path = .ok (.file file) ∧ f.takeAll file = (g, changes) := by
  unfold reload at h
  split at h
  · cases h
  · cases h
  · rename_i file hr
    exact ⟨file, hr, by simpa [Prod.ext_iff] using h⟩

theorem readTail_ok {f g : Follower} {disk : Disk} {changes : List LineChange}
    (h : f.readTail disk = .ok (g, changes)) :
    ∃ file, disk.read f.path = .ok (.file file) ∧
      f.takeTail (file.bytes.drop f.read) = (g, changes) := by
  unfold readTail at h
  split at h
  · cases h
  · cases h
  · rename_i file hr
    exact ⟨file, hr, by simpa using h⟩

theorem looked_of_refreshAcross {f g : Follower} {first then' : Disk} {changes : List LineChange}
    (h : (f.refreshAcross first then').value = .ok (g, changes)) : Looked f first then' g changes := by
  unfold refreshAcross at h
  split at h
  · cases h
  · rename_i node hn
    split at h
    · rename_i hp
      simp only [Logged.value_pure, Except.ok.injEq, Prod.mk.injEq] at h
      obtain ⟨rfl, rfl⟩ := h
      exact .idle node hn hp
    · rename_i hp
      obtain ⟨file, hr, he⟩ := reload_ok h
      have := Looked.reload node file hn hp hr
      rwa [he] at this
    · rename_i hp
      obtain ⟨file, hr, he⟩ := readTail_ok h
      have := Looked.readTail node file hn hp hr
      rwa [he] at this

/-- Nobody writes: the look succeeds just if it finds a file. -/
theorem refresh_ok_iff (f : Follower) (disk : Disk) :
    (∃ r, (f.refresh disk).value = .ok r) ↔ ∃ file, disk.file? f.path = some file := by
  simp only [Disk.file?_eq_some_iff]
  unfold refresh refreshAcross
  cases hd : disk.read f.path with
  | error e => simp
  | ok node =>
    cases node with
    | directory => simp [plan, reload, hd]
    | file file =>
      simp only [Except.ok.injEq, Node.file.injEq, exists_eq', iff_true]
      cases hp : f.plan (.file file) with
      | idle => simp
      | reload => simp [reload, hd]
      | readTail => simp [readTail, hd]

/-! ## Fields that a look keeps -/

theorem takeTail_path (f : Follower) (tail : List UInt8) : (f.takeTail tail).1.path = f.path := by
  unfold takeTail
  simp only
  split <;> rfl

theorem Looked.path {f g : Follower} {first then' : Disk} {changes : List LineChange}
    (h : Looked f first then' g changes) : g.path = f.path := by
  cases h with
  | idle => rfl
  | reload => rfl
  | readTail => exact takeTail_path f _

end Follower

/-! ## What is told of the lines -/

/-- How changes account for the lines `new` in place of the lines `old`: nothing happened, some lines came
behind the others, or all lines went and the new ones came. -/
inductive Told (old new : Lines) : List LineChange → Prop
  | same : new = old → Told old new []
  | grown (more : List String) : more ≠ [] → new = old ++ more.toArray → Told old new [⟨new.size, old.size⟩]
  | replaced : Told old new (⟨0, old.size⟩ :: if new.size = 0 then [] else [⟨new.size, 0⟩])

namespace Follower

theorem takeAll_told (f : Follower) (file : File) : Told f.lines (f.takeAll file).1.lines (f.takeAll file).2 := by
  have h : (f.takeAll file).2 = ⟨0, f.lines.size⟩ ::
      if (f.takeAll file).1.lines.size = 0 then [] else [⟨(f.takeAll file).1.lines.size, 0⟩] := by
    unfold takeAll
    simp only
    split <;> rfl
  rw [h]
  exact .replaced

theorem takeTail_told (f : Follower) (tail : List UInt8) :
    Told f.lines (f.takeTail tail).1.lines (f.takeTail tail).2 := by
  unfold takeTail
  simp only
  split
  · exact .same rfl
  · rename_i h
    exact .grown _ (linesOf_completePart_ne_nil (by simpa using h)) rfl

theorem Looked.told {f g : Follower} {first then' : Disk} {changes : List LineChange}
    (h : Looked f first then' g changes) : Told f.lines g.lines changes := by
  cases h with
  | idle => exact .same rfl
  | reload node file => exact takeAll_told f file
  | readTail node file => exact takeTail_told f _

end Follower

end LogTable
