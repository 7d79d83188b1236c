import LogTable.Paint
import LogTable.Proofs.Loading

/-!
# Malformed patterns and conditions in format files

A malformed pattern makes a format without columns, and a malformed condition one that never holds; neither is meant to
keep a format file from loading. Conditions never do: whether a file loads depends on its pattern and on the columns of
its entries alone (`FormatFile.loads_congr`). A malformed pattern does if some entry names its column. Names are looked
up among the columns that are left, which are none, so the first entry with a name is refused for its column, although
it is the pattern that is wrong. An entry that gives its column by number is taken whatever the columns are.

Results: `malformed_pattern_loads_unless_named`, and `malformed_pattern_refused` with one entry that names its column.
-/
namespace LogTable

namespace FormatFile

/-- Entries with the same columns are placed alike, whatever else they say. -/
theorem placed_congr {columns : List String} {entries others : List RuleEntry}
    (h : others.map (·.column) = entries.map (·.column)) :
    (∀ e ∈ entries, ∀ name, e.column = .name name → name ∈ columns) ↔
      ∀ e ∈ others, ∀ name, e.column = .name name → name ∈ columns := by
  have hkeys : ∀ es : List RuleEntry, (∀ e ∈ es, ∀ name, e.column = .name name → name ∈ columns) ↔
      ∀ key ∈ es.map (·.column), ∀ name, key = .name name → name ∈ columns := by
    intro es
    rw [List.forall_mem_map]
  rw [hkeys, hkeys, h]

/-- Whether a file loads depends on its pattern and on the columns of its entries. -/
theorem loads_congr {file other : FormatFile} (hpattern : other.pattern = file.pattern)
    (hcolumns : other.highlights.map (·.column) = file.highlights.map (·.column)) :
    (∃ f, file.toFormat.value = .ok f) ↔ ∃ f, other.toFormat.value = .ok f := by
  have hbare : other.bare.columns = file.bare.columns := by
    unfold bare
    rw [hpattern]
  rw [file.followsEntries.succeeds, other.followsEntries.succeeds, hbare]
  exact placed_congr hcolumns

/-- Without columns no name is one of a column. -/
theorem not_named_iff (key : ColumnKey) :
    (∀ name, key = .name name → name ∈ ([] : List String)) ↔ ∃ n, key = .index n := by
  cases key <;> simp

end FormatFile

/-- No line parses with a pattern that did not compile. -/
theorem Line.read_of_no_regex {f : Format} (h : f.regex = none) (raw : String) : Line.read f raw = .unparsed := by
  unfold Line.read Line.parse
  rw [h]
  rfl

/-- **A format file with a malformed pattern loads unless an entry names its column.** Then it has a format without
columns, with a highlight for each entry in their order, and no line parses; else the first entry with a name is the
failure. Conditions and whatever else the entries say have no part in it: of two files with the same pattern and the
same columns in their entries both load or none does. -/
theorem malformed_pattern_loads_unless_named (file : FormatFile) {fault : Regex.Fault}
    (h : Regex.compile file.pattern = .error fault) :
    ((∃ f, file.toFormat.value = .ok f) ↔ ∀ e ∈ file.highlights, ∃ n, e.column = .index n) ∧
    (∀ f, file.toFormat.value = .ok f →
      f.columnCount = 0 ∧ List.Forall₂ (RuleEntry.Yields []) file.highlights f.highlights ∧
        ∀ raw, Line.read f raw = .unparsed) ∧
    (∀ why, file.toFormat.value = .error why →
      ∃ before e after name, file.highlights = before ++ e :: after ∧ (∀ x ∈ before, ∃ n, x.column = .index n) ∧
        e.column = .name name ∧ why = .unknownColumn e.condition name) ∧
    ∀ one other : FormatFile, other.pattern = one.pattern →
      other.highlights.map (·.column) = one.highlights.map (·.column) →
      ((∃ f, one.toFormat.value = .ok f) ↔ ∃ f, other.toFormat.value = .ok f) := by
  have hfollows : file.FollowsEntries none [] := by
    have hbare := file.followsEntries
    unfold FormatFile.bare at hbare
    rwa [Format.new_of_error h] at hbare
  refine ⟨?_, fun f hf => ?_, fun why hwhy => ?_, fun one other => FormatFile.loads_congr⟩
  · rw [hfollows.succeeds]
    simp only [FormatFile.not_named_iff]
  · obtain ⟨-, -, hregex, hcolumns, hys⟩ := hfollows.format f hf
    refine ⟨?_, hys, Line.read_of_no_regex hregex⟩
    rw [Format.columnCount, hcolumns, List.length_nil]
  · obtain ⟨before, e, after, name, hentries, hbefore, hname, -, hwhy⟩ := hfollows.failure why hwhy
    simp only [FormatFile.not_named_iff] at hbefore
    exact ⟨before, e, after, name, hentries, hbefore, hname, hwhy⟩

/-- A file with a pattern that is not closed, a condition that is none, and a column given in some way. -/
def unclosed (column : ColumnKey) : FormatFile where
  pattern := "(?<time>a"
  highlights := [{ column := .index 0, condition := "~ [" }, { column, condition := "== ERROR" }]

theorem compile_unclosed (column : ColumnKey) : ∃ fault, Regex.compile (unclosed column).pattern = .error fault := by
  show ∃ fault, Regex.compile "(?<time>a" = .error fault
  have hfails : (Regex.compile "(?<time>a").toOption.isNone = true := by decide +kernel
  cases h : Regex.compile "(?<time>a" with
  | ok r =>
    rw [h] at hfails
    cases hfails
  | error fault => exact ⟨fault, rfl⟩

theorem malformed_pattern_loads_unless_named_unclosed :
    (∃ fault, Regex.compile (unclosed (.index 7)).pattern = .error fault) ∧
      ∃ f, (unclosed (.index 7)).toFormat.value = .ok f ∧ f.columnCount = 0 ∧
        List.Forall₂ (RuleEntry.Yields []) (unclosed (.index 7)).highlights f.highlights ∧
        ∀ raw, Line.read f raw = .unparsed := by
  obtain ⟨fault, h⟩ := compile_unclosed (.index 7)
  obtain ⟨hloads, hformat, -⟩ := malformed_pattern_loads_unless_named (unclosed (.index 7)) h
  obtain ⟨f, hf⟩ := hloads.2 (by simp [unclosed])
  exact ⟨⟨fault, h⟩, f, hf, hformat f hf⟩

/-- The pattern is malformed, and what fails is the column. -/
theorem malformed_pattern_refused :
    (∃ fault, Regex.compile (unclosed (.name "level")).pattern = .error fault) ∧
      (unclosed (.name "level")).toFormat.value = .error (.unknownColumn "== ERROR" "level") :=
  ⟨compile_unclosed _, rfl⟩

end LogTable
