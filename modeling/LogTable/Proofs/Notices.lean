import Mathlib.Data.List.Chain
import LogTable.Proofs.Refresh

/-!
# The notices of a follower account for its lines

A follower looks at its file again and again, and each look gives notices of what became of the lines. Nothing
is assumed of the file: before each look, and between looking and reading, it may have become any other one, or
be gone. Whoever is given all notices in their order can keep count of the lines, and knows at any time which
of them may be other ones than before.

* `Leads`: notices that go on from one another, from one number of lines to another. Those of one look lead
  from the lines before it to the lines after it (`Told.leads`), and so do those of a run (`leads_lookAllAcross`).
* `Told` says for a single look which lines may have changed: those before an append have not (`Told.agree`),
  and otherwise the first notice is one of a reset (`Told.reset_of_differ`).

Result: `notices_account`.
-/
namespace LogTable

/-! ## Notices one behind the other -/

/-- These notices lead from `start` lines to `stop` lines: each goes on where the one before it ended. -/
def Leads (start : Nat) : List LineChange → Nat → Prop
  | [], stop => start = stop
  | c :: rest, stop => c.old = start ∧ Leads c.new rest stop

theorem Leads.append {first rest : List LineChange} {start middle stop : Nat} (h₁ : Leads start first middle)
    (h₂ : Leads middle rest stop) : Leads start (first ++ rest) stop := by
  induction first generalizing start with
  | nil =>
    cases h₁
    exact h₂
  | cons c first ih => exact ⟨h₁.1, ih h₁.2⟩

theorem Leads.old_head {changes : List LineChange} {start stop : Nat} (h : Leads start changes stop) :
    ∀ c ∈ changes.head?, c.old = start := by
  cases changes with
  | nil => simp
  | cons c rest => simpa using h.1

theorem Leads.isChain {changes : List LineChange} {start stop : Nat} (h : Leads start changes stop) :
    changes.IsChain fun c next => next.old = c.new := by
  induction changes generalizing start with
  | nil => exact .nil
  | cons c rest ih =>
    rw [List.isChain_cons]
    exact ⟨h.2.old_head, ih h.2⟩

/-- The last notice has the number of lines there are in the end; without notices that is the first one. -/
theorem Leads.new_last {changes : List LineChange} {start stop : Nat} (h : Leads start changes stop) :
    (changes.getLast?.map LineChange.new).getD start = stop := by
  induction changes generalizing start with
  | nil => exact h
  | cons c rest ih =>
    have hrest := ih h.2
    cases rest with
    | nil => exact hrest
    | cons next rest =>
      rw [List.getLast?_cons_cons]
      rw [List.getLast?_eq_some_getLast (List.cons_ne_nil next rest)] at hrest ⊢
      exact hrest

/-! ## The notices of one look -/

namespace Told

variable {old new : Lines} {changes : List LineChange}

theorem leads (h : Told old new changes) : Leads old.size changes new.size := by
  cases h with
  | same h => exact congrArg Array.size h.symm
  | grown more _ _ => exact ⟨rfl, rfl⟩
  | replaced =>
    refine ⟨rfl, ?_⟩
    split
    · rename_i h
      exact h.symm
    · exact ⟨rfl, rfl⟩

/-- What notices one look can give. -/
theorem shape (h : Told old new changes) :
    changes = [] ∨ (∃ c, changes = [c] ∧ c.grows = true) ∨ changes = [⟨0, old.size⟩] ∨
      (0 < new.size ∧ changes = [⟨0, old.size⟩, ⟨new.size, 0⟩]) := by
  cases h with
  | same h => exact .inl rfl
  | grown more hne hnew =>
    refine .inr (.inl ⟨_, rfl, ?_⟩)
    have hpos : 0 < more.length := List.length_pos_iff.2 hne
    simp only [LineChange.grows, decide_eq_true_eq, hnew, Array.size_append, List.size_toArray]
    omega
  | replaced =>
    by_cases h : new.size = 0
    · exact .inr (.inr (.inl (by rw [if_pos h])))
    · exact .inr (.inr (.inr ⟨Nat.pos_of_ne_zero h, by rw [if_neg h]⟩))

theorem eq_of_nil (h : Told old new []) : new = old := by
  cases h with
  | same h => exact h

/-- Lines told to have been appended came behind the others, which are as they were. -/
theorem agree {c : LineChange} (h : Told old new [c]) (hc : c.grows = true) :
    c.old = old.size ∧ c.new = new.size ∧ old.size < new.size ∧ ∀ row < old.size, new[row]? = old[row]? := by
  generalize hs : [c] = told at h
  cases h with
  | same => cases hs
  | grown more hne hnew =>
    cases hs
    refine ⟨rfl, rfl, by simpa [LineChange.grows] using hc, fun row hrow => ?_⟩
    rw [hnew, Array.getElem?_append_left hrow]
  | replaced =>
    obtain ⟨rfl, -⟩ := List.cons.inj hs
    simp [LineChange.grows] at hc

/-- A line that is another one has been told of by a reset before anything else. -/
theorem reset_of_differ (h : Told old new changes) {row : Nat} (hrow : row < old.size)
    (hne : new[row]? ≠ old[row]?) : ∃ c, changes.head? = some c ∧ c.effect = .reset := by
  cases h with
  | same h => exact absurd (by rw [h]) hne
  | grown more _ hnew => exact absurd (by rw [hnew, Array.getElem?_append_left hrow]) hne
  | replaced => exact ⟨_, rfl, LineChange.effect_eq_reset_iff.2 (Nat.zero_le _)⟩

end Told

namespace Follower

/-- A follower after a look at the disk `first` that read from the disk `then'`, and what the look told. A look
that fails does nothing and tells nothing. -/
def lookAcross (f : Follower) (first then' : Disk) : Follower × List LineChange :=
  match (f.refreshAcross first then').value with
  | .ok r => r
  | .error _ => (f, [])

theorem told_lookAcross (f : Follower) (first then' : Disk) :
    Told f.lines (f.lookAcross first then').1.lines (f.lookAcross first then').2 := by
  unfold lookAcross
  split
  · rename_i r h
    exact (looked_of_refreshAcross h).told
  · exact .same rfl

/-- Every line is new when the file is read from the start. -/
def Rereads (f : Follower) (first then' : Disk) : Prop :=
  ∃ node file, first.read f.path = .ok node ∧ f.plan node = .reload ∧ then'.read f.path = .ok (.file file)

theorem lookAcross_of_rereads {f : Follower} {first then' : Disk} (h : f.Rereads first then') :
    ∃ file, then'.read f.path = .ok (.file file) ∧ f.lookAcross first then' = f.takeAll file := by
  obtain ⟨node, file, hn, hp, hr⟩ := h
  refine ⟨file, hr, ?_⟩
  unfold lookAcross refreshAcross
  simp only [hn, hp, reload, hr]
  rfl

theorem reset_of_rereads {f : Follower} {first then' : Disk} (h : f.Rereads first then') :
    ∃ c, (f.lookAcross first then').2.head? = some c ∧ c.effect = .reset := by
  obtain ⟨file, -, he⟩ := lookAcross_of_rereads h
  refine ⟨⟨0, f.lines.size⟩, ?_, LineChange.effect_eq_reset_iff.2 (Nat.zero_le _)⟩
  rw [he]
  unfold takeAll
  simp only
  split <;> rfl

/-! ## A whole run -/

/-- A follower after some looks, and all that they told, in order. -/
def lookAllAcross (f : Follower) : List (Disk × Disk) → Follower × List LineChange
  | [] => (f, [])
  | (first, then') :: rest =>
    let (g, changes) := f.lookAcross first then'
    let (h, more) := g.lookAllAcross rest
    (h, changes ++ more)

/-- The induction is on the looks; the notices of the first lead to where those of the others go on. -/
theorem leads_lookAllAcross (f : Follower) (looks : List (Disk × Disk)) :
    Leads f.lines.size (f.lookAllAcross looks).2 (f.lookAllAcross looks).1.lines.size := by
  induction looks generalizing f with
  | nil => rfl
  | cons look looks ih =>
    exact (f.told_lookAcross look.1 look.2).leads.append (ih (f.lookAcross look.1 look.2).1)

/-- **The notices account for the lines.** Take any looks, whatever becomes of the file. The notices of all of
them go on from one another, from the number of lines at first to the number of lines now. Each look tells
nothing, of one append, that all lines went, or that they went and others came. If it tells nothing the lines
are as they were, and if it tells of an append those before it are. If a line is another one, or the file has
been read from the start, the first notice is that everything may be different. -/
theorem notices_account (f : Follower) (looks : List (Disk × Disk)) :
    let g := (f.lookAllAcross looks).1
    let told := (f.lookAllAcross looks).2
    (∀ c ∈ told.head?, c.old = f.lines.size) ∧ (told.IsChain fun c next => next.old = c.new) ∧
    (told.getLast?.map LineChange.new).getD f.lines.size = g.lines.size ∧
    ∀ first then' : Disk,
      let after := (g.lookAcross first then').1
      let batch := (g.lookAcross first then').2
      (batch = [] ∨ (∃ c, batch = [c] ∧ c.grows = true) ∨ batch = [⟨0, g.lines.size⟩] ∨
        (0 < after.lines.size ∧ batch = [⟨0, g.lines.size⟩, ⟨after.lines.size, 0⟩])) ∧
      (batch = [] → after.lines = g.lines) ∧
      (∀ c, batch = [c] → c.grows = true → c.old = g.lines.size ∧ c.new = after.lines.size ∧
        g.lines.size < after.lines.size ∧ ∀ row < g.lines.size, after.lines[row]? = g.lines[row]?) ∧
      ((∃ row < g.lines.size, after.lines[row]? ≠ g.lines[row]?) ∨ g.Rereads first then' →
        ∃ c, batch.head? = some c ∧ c.effect = .reset) := by
  intro g told
  have hleads := f.leads_lookAllAcross looks
  refine ⟨hleads.old_head, hleads.isChain, hleads.new_last, fun first then' => ?_⟩
  intro after batch
  have htold : Told g.lines after.lines batch := g.told_lookAcross first then'
  refine ⟨htold.shape, fun hb => ?_, fun c hb hc => ?_, ?_⟩
  · rw [hb] at htold
    exact htold.eq_of_nil
  · rw [hb] at htold
    exact htold.agree hc
  · rintro (⟨row, hrow, hne⟩ | hread)
    · exact htold.reset_of_differ hrow hne
    · exact reset_of_rereads hread

/-- A file of no lines is replaced by another of none, which one of a line takes the place of while it is being
looked at. -/
example :
    let empty := ({} : Disk).rotate "app.log" []
    let other := empty.rotate "app.log" []
    ((ofFile "app.log" ⟨0, [], 0⟩).lookAllAcross [(empty, empty), (other, other),
      (other.rotate "app.log" [], other.rotate "app.log" [97])]).2 = [⟨0, 0⟩, ⟨0, 0⟩, ⟨1, 0⟩] := by
  decide +kernel

end Follower

end LogTable
