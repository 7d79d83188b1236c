import LogTable.Proofs.Influence

/-!
# A format that has been revised

Highlights can be added to a format and taken out of it, and can be given other definitions, in any order. A condition
is compiled when its definition is set and kept from then on; setting the definition that is there already compiles
nothing, and a place says nothing about a highlight after one before it is gone. Still a revised format is the one that
is made anew from its rules (`ofRules_map_rule`): nothing is in it but its pattern and, for each highlight, what the
highlight says (`Rule`), since every condition is the one that its definition stands for (`Highlight.Synced`).

A revision of the format is the same revision of a plain list of rules (`map_rule_revise`), which is given without the
operations of formats.

Results: `revised_like_new`.
-/
namespace LogTable

/-- What a highlight says, without what is compiled from it. -/
structure Rule where
  column : Nat
  scope : Scope
  definition : String
  fg : Option Color
  bg : Option Color

def Highlight.rule (h : Highlight) : Rule := ⟨h.column, h.scope, h.definition, h.fg, h.bg⟩

/-- The highlight of a rule, made anew. -/
def Rule.highlight (r : Rule) : Highlight :=
  { (Highlight.new r.column r.definition).value with scope := r.scope, fg := r.fg, bg := r.bg }

inductive Revision
  | add (h : Highlight)
  | remove (id : Nat)
  | redefine (id : Nat) (definition : String)

/-- The same done to a list. -/
def Revision.onRules (rules : List Rule) : Revision → List Rule
  | .add h => rules ++ [h.rule]
  | .remove id => rules.take id ++ rules.drop (id + 1)
  | .redefine id definition => rules.mapIdx fun i r => if i = id then { r with definition } else r

namespace Format

def revise (f : Format) : Revision → Logged Format
  | .add h => f.add h
  | .remove id => pure (f.remove id)
  | .redefine id definition => f.setDefinition id definition

def reviseAll (f : Format) : List Revision → Logged Format
  | [] => pure f
  | r :: rest => do (← f.revise r).reviseAll rest

/-- A new format that is given some rules in their order. -/
def ofRules (pattern : String) (rules : List Rule) : Format :=
  rules.foldl (fun f r => (f.add r.highlight).value) (new pattern).value

end Format

/-! ## Rules and highlights -/

theorem Highlight.Synced.highlight_rule {h : Highlight} (hs : h.Synced) : h.rule.highlight = h := by
  obtain ⟨column, scope, definition, condition, fg, bg⟩ := h
  have hcondition : condition = (Condition.compile definition).value := hs
  subst hcondition
  rfl

theorem Highlight.Synced.setDefinition {h : Highlight} (hs : h.Synced) (definition : String) :
    (h.setDefinition definition).value.Synced := by
  unfold Highlight.setDefinition
  split
  · exact hs
  · rfl

theorem Highlight.rule_setDefinition (h : Highlight) (definition : String) :
    (h.setDefinition definition).value.rule = { h.rule with definition } := by
  unfold setDefinition
  split
  · rename_i he
    rw [he]
    rfl
  · rfl

namespace Format

/-! ## One revision -/

theorem setDefinition_of_out {f : Format} {id : Nat} (h : f.highlights.length ≤ id) (definition : String) :
    f.setDefinition id definition = pure f := by
  unfold setDefinition highlight?
  rw [List.getElem?_eq_none h]

theorem setDefinition_of_at {f : Format} {id : Nat} {h : Highlight} (hat : f.highlights[id]? = some h)
    (definition : String) : (f.setDefinition id definition).value =
      { f with highlights := f.highlights.set id (h.setDefinition definition).value } := by
  unfold setDefinition highlight?
  rw [hat]
  rfl

theorem remove_of_out {f : Format} {id : Nat} (h : f.highlights.length ≤ id) : f.remove id = f := by
  unfold remove
  rw [List.eraseIdx_of_length_le h]

/-- Nothing but the highlights is revised. -/
theorem withHighlights_revise (f : Format) (r : Revision) :
    (f.revise r).value = { f with highlights := (f.revise r).value.highlights } := by
  cases r with
  | add h => rfl
  | remove id => rfl
  | redefine id definition =>
    simp only [revise]
    cases hat : f.highlights[id]? with
    | none => rw [setDefinition_of_out (List.getElem?_eq_none_iff.1 hat)]; rfl
    | some h => rw [setDefinition_of_at hat]

/-- A revision of a format is that revision of its rules. -/
theorem map_rule_revise (f : Format) (r : Revision) :
    (f.revise r).value.highlights.map Highlight.rule = r.onRules (f.highlights.map Highlight.rule) := by
  cases r with
  | add h => simp [revise, add, Revision.onRules]
  | remove id =>
    simp only [revise, Logged.value_pure, remove, Revision.onRules, List.eraseIdx_eq_take_drop_succ, List.map_append,
      List.map_take, List.map_drop]
  | redefine id definition =>
    refine List.ext_getElem? fun j => ?_
    simp only [revise, Revision.onRules, List.getElem?_map, List.getElem?_mapIdx]
    cases hat : f.highlights[id]? with
    | none =>
      rw [setDefinition_of_out (List.getElem?_eq_none_iff.1 hat), Logged.value_pure]
      by_cases hj : j = id
      · rw [hj, hat]
        rfl
      · simp [hj, Function.comp_def]
    | some h =>
      rw [setDefinition_of_at hat]
      by_cases hj : j = id
      · subst hj
        simp [List.getElem?_set_self', hat, Highlight.rule_setDefinition]
      · simp [List.getElem?_set_ne (Ne.symm hj), hj, Function.comp_def]

theorem Sound.revise {f : Format} (hf : f.Sound) {r : Revision} (hr : ∀ h, r = .add h → h.Synced) :
    (f.revise r).value.Sound := by
  have hgroups : (f.revise r).value.groups.length = (f.revise r).value.columnCount := by
    rw [withHighlights_revise]
    exact hf.groups
  refine ⟨fun x hx => ?_, hgroups⟩
  cases r with
  | add h =>
    rcases List.mem_append.1 hx with hx | hx
    · exact hf.synced x hx
    · rw [List.mem_singleton.1 hx]
      exact hr h rfl
  | remove id => exact hf.synced x (List.mem_of_mem_eraseIdx hx)
  | redefine id definition =>
    have hx : x ∈ (f.setDefinition id definition).value.highlights := hx
    cases hat : f.highlights[id]? with
    | none =>
      rw [setDefinition_of_out (List.getElem?_eq_none_iff.1 hat)] at hx
      exact hf.synced x hx
    | some h =>
      rw [setDefinition_of_at hat] at hx
      rcases List.mem_or_eq_of_mem_set hx with hx | rfl
      · exact hf.synced x hx
      · exact (hf.synced h (List.mem_of_getElem? hat)).setDefinition definition

/-! ## Any revisions -/

/-- The induction is on the revisions still to come. -/
theorem revised {f : Format} (hf : f.Sound) {revisions : List Revision} (hmade : ∀ h, .add h ∈ revisions → h.Made) :
    let f' := (f.reviseAll revisions).value
    f' = { f with highlights := f'.highlights } ∧ f'.Sound ∧
      f'.highlights.map Highlight.rule = revisions.foldl Revision.onRules (f.highlights.map Highlight.rule) := by
  induction revisions generalizing f with
  | nil => exact ⟨rfl, hf, rfl⟩
  | cons r rest ih =>
    have hnext : (f.revise r).value.Sound :=
      hf.revise fun h he => (hmade h (he ▸ List.mem_cons_self)).synced
    obtain ⟨hfields, hsound, hrules⟩ := ih hnext fun h hmem => hmade h (List.mem_cons_of_mem r hmem)
    refine ⟨?_, hsound, ?_⟩
    · let last := ((f.revise r).value.reviseAll rest).value.highlights
      have hhead := congrArg (fun g : Format => { g with highlights := last }) (f.withHighlights_revise r)
      exact hfields.trans hhead
    · rw [List.foldl_cons, ← map_rule_revise]
      exact hrules

theorem foldl_add (f : Format) (rules : List Rule) :
    rules.foldl (fun f r => (f.add r.highlight).value) f =
      { f with highlights := f.highlights ++ rules.map Rule.highlight } := by
  induction rules generalizing f with
  | nil => simp
  | cons r rest ih =>
    rw [List.foldl_cons, ih]
    simp [add]

/-- A format is made anew from its pattern and its rules. -/
theorem ofRules_map_rule {highlights : List Highlight} (h : ∀ x ∈ highlights, x.Synced) (pattern : String) :
    ofRules pattern (highlights.map Highlight.rule) = { (new pattern).value with highlights } := by
  have hsame : (highlights.map Highlight.rule).map Rule.highlight = highlights := by
    calc (highlights.map Highlight.rule).map Rule.highlight
      _ = highlights.map id := by
        rw [List.map_map]
        exact List.map_congr_left fun x hx => (h x hx).highlight_rule
      _ = highlights := List.map_id highlights
  rw [ofRules, foldl_add, hsame, (fields_new pattern).2.2, List.nil_append]

/-- The format has these rules, with conditions that hold as those of their definitions do, its columns are those of
the pattern, and it reads every line as the format does that is made from the pattern and the rules. -/
structure MadeOf (f : Format) (pattern : String) (rules : List Rule) : Prop where
  list : f.highlights.map Highlight.rule = rules
  conditions : ∀ h ∈ f.highlights, ∀ text, h.holds text = (Condition.compile h.definition).value.holds text
  source : f.pattern = pattern
  regex : f.regex = (new pattern).value.regex
  columns : f.columns = (new pattern).value.columns
  groups : f.groups = (new pattern).value.groups
  lines : ∀ raw, Line.read f raw = Line.read (ofRules pattern rules) raw

/-- **A revised format is like a new one.** After any revisions of a new format its rules are those of a list that is
revised in the same way, and the format is made of them. What is added takes the last place; what is taken out lets
those behind it move up; and at a place where there is no highlight nothing is changed. -/
theorem revised_like_new (pattern : String) (revisions : List Revision)
    (hmade : ∀ h, .add h ∈ revisions → h.Made) :
    let f := ((new pattern).value.reviseAll revisions).value
    f.MadeOf pattern (revisions.foldl Revision.onRules []) ∧
    (∀ h, (f.add h).value.lastId = f.highlights.length ∧
      (f.add h).value.highlight? f.highlights.length = some h) ∧
    (∀ id j, (f.remove id).highlight? j = f.highlight? (if j < id then j else j + 1)) ∧
    ∀ id, f.highlights.length ≤ id →
      f.remove id = f ∧ ∀ definition, f.setDefinition id definition = pure f := by
  intro f
  obtain ⟨hfields, hsound, hrules⟩ := revised (sound_new pattern) hmade
  have hnone : (new pattern).value.highlights = [] := (fields_new pattern).2.2
  have hrules : f.highlights.map Highlight.rule = revisions.foldl Revision.onRules [] := by
    rw [hrules, hnone, List.map_nil]
  have hfields : f = { (new pattern).value with highlights := f.highlights } := hfields
  have hnew : ofRules pattern (revisions.foldl Revision.onRules []) = f := by
    rw [← hrules, ofRules_map_rule hsound.synced, ← hfields]
  refine ⟨⟨hrules, fun h hh text => ?_, ?_, ?_, ?_, ?_, fun raw => ?_⟩, fun h => ⟨?_, ?_⟩, fun id j => ?_,
    fun id hid => ⟨remove_of_out hid, setDefinition_of_out hid⟩⟩
  · rw [Highlight.holds, hsound.synced h hh]
  · exact (congrArg Format.pattern hfields).trans (fields_new pattern).2.1
  · exact (congrArg Format.regex hfields).trans rfl
  · exact (congrArg Format.columns hfields).trans rfl
  · exact (congrArg Format.groups hfields).trans rfl
  · rw [hnew]
  · simp [lastId, add]
  · simp [highlight?, add]
  · unfold remove highlight?
    rw [List.getElem?_eraseIdx]
    split <;> rfl

end Format

/-- A definition that is changed and changed back, one that becomes malformed, a highlight that is taken out from
before the others, and places where there is none. -/
def turns : List Revision :=
  [.add (mark 0 .cell "== x" ⟨1, 0, 0⟩), .add (mark 0 .cell "== b" ⟨2, 0, 0⟩), .add (mark 1 .row "!= c" ⟨3, 0, 0⟩),
    .redefine 1 "?", .redefine 1 "== b", .remove 0, .redefine 1 "~ (", .remove 2, .redefine 9 "== c"]

theorem made_of_add_mem_turns {h : Highlight} (hmem : .add h ∈ turns) : h.Made := by
  simp only [turns, List.mem_cons, Revision.add.injEq, reduceCtorEq, List.not_mem_nil, or_false] at hmem
  rcases hmem with rfl | rfl | rfl <;> exact made_mark ..

theorem Format.revised_like_new_turns :
    (∀ h, .add h ∈ turns → h.Made) ∧
    let f := ((new "(?<time>a)(?<level>b)(?<text>c)").value.reviseAll turns).value
    f.MadeOf "(?<time>a)(?<level>b)(?<text>c)"
      [⟨0, .cell, "== b", some ⟨2, 0, 0⟩, none⟩, ⟨1, .row, "~ (", some ⟨3, 0, 0⟩, none⟩] ∧
    (∀ j, (f.remove 0).highlight? j = f.highlight? (j + 1)) ∧
    f.remove 2 = f := by
  refine ⟨fun h => made_of_add_mem_turns, ?_⟩
  obtain ⟨hmade, -, hremove, hout⟩ :=
    revised_like_new "(?<time>a)(?<level>b)(?<text>c)" turns fun h => made_of_add_mem_turns
  refine ⟨hmade, hremove 0, (hout 2 ?_).1⟩
  have hlength := congrArg List.length hmade.list
  rw [List.length_map] at hlength
  exact Nat.le_of_eq hlength

end LogTable
