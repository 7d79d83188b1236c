import Mathlib.Data.List.Nodup
import LogTable.Line

/-!
# Columns follow the named groups

A column has a place among the columns, the number of a group and the name of this group. The three are kept apart
by what has no name and by the first group that has one, which makes no column. A format is `Aligned` with its
pattern if its columns and its group numbers are, place by place, the names and the numbers of the groups that make
columns; a format is made so.

The named groups stand in the order of their numbers (`namedGroups_increasing`), each with its own name
(`mem_namedGroups`), and no two share one, so the name is enough to find the column and the group again. What a format
says about its columns and what it makes of a line `FollowsGroups`.

Results: `columns_follow_groups`.
-/
namespace LogTable

namespace Format

/-! ## Named groups -/

theorem map_fst_namedGroups (r : Regex) : (namedGroups r).map (·.1) = r.names.filterMap id := by
  have hname : ∀ x : Option String × Nat, (x.1.map fun n => (n, x.2)).map (·.1) = x.1 := by
    rintro ⟨_ | n, i⟩ <;> rfl
  calc (namedGroups r).map (·.1)
    _ = r.names.zipIdx.filterMap Prod.fst := by
      simp only [namedGroups, List.map_filterMap, hname]
    _ = (r.names.zipIdx.map Prod.fst).filterMap id := by rw [List.filterMap_map, Function.id_comp]
    _ = r.names.filterMap id := by rw [List.zipIdx_map_fst]

theorem mem_namedGroups {r : Regex} {name : String} {g : Nat} :
    (name, g) ∈ namedGroups r ↔ r.names[g]? = some (some name) := by
  unfold namedGroups
  rw [List.mem_filterMap]
  constructor
  · rintro ⟨⟨n, i⟩, hmem, h⟩
    obtain ⟨n, rfl, he⟩ := Option.map_eq_some_iff.1 h
    cases he
    exact List.mem_zipIdx_iff_getElem?.1 hmem
  · intro h
    exact ⟨(some name, g), List.mem_zipIdx_iff_getElem?.2 h, rfl⟩

theorem namedGroups_increasing (r : Regex) : (namedGroups r).Pairwise (·.2 < ·.2) := by
  have h : r.names.zipIdx.Pairwise (·.2 < ·.2) := by
    rw [← List.pairwise_map, List.zipIdx_map_snd]
    exact List.pairwise_lt_range' 1
  refine List.Pairwise.filterMap _ (fun x y hlt b hb b' hb' => ?_) h
  obtain ⟨n, -, rfl⟩ := Option.map_eq_some_iff.1 hb
  obtain ⟨n', -, rfl⟩ := Option.map_eq_some_iff.1 hb'
  exact hlt

/-- A name belongs to one group. -/
theorem group_eq_of_name {r : Regex} {name : String} {g g' : Nat} (h : r.names[g]? = some (some name))
    (h' : r.names[g']? = some (some name)) : g = g' := by
  have hnodup : ((namedGroups r).map (·.1)).Nodup := map_fst_namedGroups r ▸ r.distinct
  exact congrArg Prod.snd (List.inj_on_of_nodup_map hnodup (mem_namedGroups.2 h) (mem_namedGroups.2 h') rfl)

/-! ## Formats -/

/-- The columns are the named groups, in their order and without the first: each has the group of its name behind it,
with a number that goes up from column to column, and is found by its name. -/
structure FollowsGroups (f : Format) (r : Regex) : Prop where
  columns : f.columns = (r.names.filterMap id).drop 1
  length : f.groups.length = f.columnCount
  group : ∀ i name, f.columns[i]? = some name → ∃ g, f.group? i = some g ∧ r.names[g]? = some (some name)
  increasing : ∀ i j g g', i < j → f.group? i = some g → f.group? j = some g' → g < g'
  place : ∀ i name, f.columns[i]? = some name → f.columnNamed? name = some i

/-- The columns and their group numbers are those of the groups that make columns. -/
structure Aligned (f : Format) (r : Regex) : Prop where
  regex : f.regex = some r
  columns : f.columns = (dataGroups r).map (·.1)
  groups : f.groups = (dataGroups r).map (·.2)

theorem aligned_new {pattern : String} {r : Regex} (h : Regex.compile pattern = .ok r) :
    (new pattern).value.Aligned r := by
  unfold new
  rw [h]
  exact ⟨rfl, rfl, rfl⟩

theorem new_of_error {pattern : String} {fault : Regex.Fault} (h : Regex.compile pattern = .error fault) :
    (new pattern).value = { pattern, regex := none, columns := [], groups := [] } := by
  unfold new
  rw [h]
  rfl

/-- What a format has from its pattern whether it compiles or not. -/
theorem fields_new (pattern : String) :
    (new pattern).value.name = "default" ∧ (new pattern).value.pattern = pattern ∧
      (new pattern).value.highlights = [] := by
  unfold new
  split <;> exact ⟨rfl, rfl, rfl⟩

namespace Aligned

variable {f : Format} {r : Regex} (hf : f.Aligned r)
include hf

theorem columns_eq : f.columns = (r.names.filterMap id).drop 1 := by
  rw [hf.columns, dataGroups, List.map_drop, map_fst_namedGroups]

theorem columns_nodup : f.columns.Nodup := by
  rw [hf.columns_eq]
  exact r.distinct.sublist (List.drop_sublist 1 _)

/-- A column and its group number come from one group. -/
theorem exists_group {i : Nat} {name : String} (h : f.columns[i]? = some name) :
    ∃ g, f.group? i = some g ∧ r.names[g]? = some (some name) := by
  rw [hf.columns, List.getElem?_map, Option.map_eq_some_iff] at h
  obtain ⟨⟨n, g⟩, hat, rfl⟩ := h
  refine ⟨g, ?_, mem_namedGroups.1 (List.mem_of_mem_drop (List.mem_of_getElem? hat))⟩
  rw [group?, hf.groups, List.getElem?_map, hat]
  rfl

theorem length_groups : f.groups.length = f.columnCount := by
  rw [columnCount, hf.groups, hf.columns, List.length_map, List.length_map]

theorem group_lt {i j g g' : Nat} (hij : i < j) (hi : f.group? i = some g) (hj : f.group? j = some g') : g < g' := by
  have h : f.groups.Pairwise (· < ·) := by
    rw [hf.groups, List.pairwise_map]
    exact (namedGroups_increasing r).sublist (List.drop_sublist 1 _)
  obtain ⟨hi', rfl⟩ := List.getElem?_eq_some_iff.1 hi
  obtain ⟨hj', rfl⟩ := List.getElem?_eq_some_iff.1 hj
  exact List.pairwise_iff_getElem.1 h i j hi' hj' hij

theorem columnNamed?_eq {i : Nat} {name : String} (h : f.columns[i]? = some name) : f.columnNamed? name = some i := by
  obtain ⟨hi, rfl⟩ := List.getElem?_eq_some_iff.1 h
  refine List.findIdx?_eq_some_iff_getElem.2 ⟨hi, by simp, fun j hj => ?_⟩
  rw [decide_eq_true_eq, hf.columns_nodup.getElem_inj_iff]
  exact Nat.ne_of_lt hj

theorem followsGroups : f.FollowsGroups r where
  columns := hf.columns_eq
  length := hf.length_groups
  group _ _ := hf.exists_group
  increasing _ _ _ _ := hf.group_lt
  place _ _ := hf.columnNamed?_eq

end Aligned

end Format

/-! ## Cells -/

/-- What the group of this name captured, if it took part. -/
def Regex.captured? (r : Regex) (captures : List (Option String)) (name : String) : Option String :=
  (r.names.idxOf? (some name)).bind fun g => captures[g]?.join

theorem Regex.captured?_eq {r : Regex} {g : Nat} {name : String} (h : r.names[g]? = some (some name))
    (captures : List (Option String)) : r.captured? captures name = captures[g]?.join := by
  have hidx : r.names.idxOf? (some name) = some g := by
    obtain ⟨hg, hname⟩ := List.getElem?_eq_some_iff.1 h
    refine List.idxOf?_eq_some_iff.2 ⟨hg, hname, fun j hj hj' => ?_⟩
    have hat : r.names[j]? = some (some name) := List.getElem?_eq_some_iff.2 ⟨_, hj'⟩
    exact absurd (Format.group_eq_of_name hat h) (Nat.ne_of_lt hj)
  rw [captured?, hidx]
  rfl

/-- What a group captured stands in the line. -/
theorem Regex.infix_of_captured {r : Regex} {raw : String} {captures : List (Option String)} {name text : String}
    (hcaptures : r.captures? raw = some captures) (h : r.captured? captures name = some text) :
    text.toList <:+: raw.toList := by
  obtain ⟨g, -, hat⟩ := Option.bind_eq_some_iff.1 h
  obtain ⟨slots, -, rfl⟩ := Option.map_eq_some_iff.1 hcaptures
  rw [Option.join_eq_some_iff, List.getElem?_map, Option.map_eq_some_iff] at hat
  obtain ⟨k, -, hbetween⟩ := hat
  unfold between at hbetween
  split at hbetween
  · cases hbetween
    rw [String.toList_ofList]
    exact (List.take_prefix _ _).isInfix.trans (List.drop_suffix _ _).isInfix
  · cases hbetween

namespace Line

/-- A line does not parse if there are no columns or the pattern does not match. Any other has one cell for each
column, without colors; its text is what the group of the column's name captured of the line, without the blanks
around it, and empty if the group took no part. -/
structure FollowsGroups (f : Format) (r : Regex) (raw : String) : Prop where
  unparsed : parse f raw = .unparsed ↔ f.columns = [] ∨ r.captures? raw = none
  parsed : ∀ cells, parse f raw = .parsed cells → ∃ captures, r.captures? raw = some captures ∧
    cells.length = f.columnCount ∧
    ∀ (i : Nat) name, f.columns[i]? = some name →
      cells[i]? = some { text := Unicode.trim ((r.captured? captures name).getD "") } ∧
      ∀ text, r.captured? captures name = some text → text.toList <:+: raw.toList

variable {f : Format} {r : Regex} (hf : f.Aligned r)
include hf

theorem parse_eq_unparsed_iff (raw : String) :
    parse f raw = .unparsed ↔ f.columns = [] ∨ r.captures? raw = none := by
  rw [parse, hf.regex, ← List.isEmpty_iff]
  simp only
  cases f.columns.isEmpty <;> cases r.captures? raw <;> simp

theorem captures_of_parsed {raw : String} {cells : List Cell} (h : parse f raw = .parsed cells) :
    ∃ captures, r.captures? raw = some captures ∧ cells = cellsOf f.groups captures := by
  rw [parse, hf.regex] at h
  simp only at h
  split at h
  · cases h
  · cases hc : r.captures? raw with
    | none => simp [hc] at h
    | some captures =>
      rw [hc] at h
      cases h
      exact ⟨captures, rfl, rfl⟩

theorem cellsOf_eq {i : Nat} {name : String} (h : f.columns[i]? = some name) (captures : List (Option String)) :
    (cellsOf f.groups captures)[i]? = some { text := Unicode.trim ((r.captured? captures name).getD "") } := by
  obtain ⟨g, hg, hname⟩ := hf.exists_group h
  have hat : f.groups[i]? = some g := hg
  rw [cellsOf, List.getElem?_map, hat, Regex.captured?_eq hname]
  rfl

theorem followsGroups (raw : String) : FollowsGroups f r raw where
  unparsed := parse_eq_unparsed_iff hf raw
  parsed cells hcells := by
    obtain ⟨captures, hcaptures, rfl⟩ := captures_of_parsed hf hcells
    refine ⟨captures, hcaptures, ?_, fun i name hi => ?_⟩
    · rw [cellsOf, List.length_map, hf.length_groups]
    · exact ⟨cellsOf_eq hf hi captures, fun text => Regex.infix_of_captured hcaptures⟩

end Line

/-- **Columns and cells follow the named groups** of a pattern that compiles, for every line. A pattern that does not
has no columns, and no line parses. -/
theorem columns_follow_groups (pattern : String) :
    (∀ r, Regex.compile pattern = .ok r →
      (Format.new pattern).value.FollowsGroups r ∧ ∀ raw, Line.FollowsGroups (Format.new pattern).value r raw) ∧
    ∀ fault, Regex.compile pattern = .error fault →
      (Format.new pattern).value.columnCount = 0 ∧ ∀ raw, Line.parse (Format.new pattern).value raw = .unparsed := by
  refine ⟨fun r h => ?_, fun fault h => ?_⟩
  · have hf := Format.aligned_new h
    exact ⟨hf.followsGroups, Line.followsGroups hf⟩
  · rw [Format.new_of_error h]
    exact ⟨rfl, fun raw => rfl⟩

end LogTable
