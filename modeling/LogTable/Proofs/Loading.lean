import LogTable.Format.File
import LogTable.Proofs.Columns
import LogTable.Proofs.Storage

/-!
# Format files are loaded as they are written

The entries of a format file are taken one by one, and each becomes a highlight behind those before it. What the
column of an entry `Denotes` among the columns of the format and what highlight the entry `Yields` is said here
without the format that is being built. An entry is `Placed` if its column is a number or the name of a column; the
first that is not ends the loading. `Outcome` tells the two ways in which it can end, and taking the entries leads
to one of them (`addEntries_outcome`), by induction on the entries that are left.

A format is loaded from a path or from its text alone. The two ways share no step but the reading of the document,
and differ in the name of a format that has none of its own (`ofText_ok_iff`, `load_ok_iff`).

Results: `loaded_as_written`.
-/
namespace LogTable

/-! ## Entries and highlights -/

/-- What the key of a column stands for: a number for itself, whether there is such a column or not, and a name for
the place where it stands among the columns. -/
inductive ColumnKey.Denotes (columns : List String) : ColumnKey → Nat → Prop
  | index (n : Nat) : Denotes columns (.index n) n
  | name {s : String} {i : Nat} (h : columns[i]? = some s) : Denotes columns (.name s) i

namespace RuleEntry

/-- The highlight that an entry describes. -/
structure Yields (columns : List String) (e : RuleEntry) (h : Highlight) : Prop where
  column : e.column.Denotes columns h.column
  scope : h.scope = e.scope
  definition : h.definition = e.condition
  condition : h.condition = (Condition.compile e.condition).value
  fg : h.fg = e.fg
  bg : h.bg = e.bg

/-- If the entry names its column, there is one of this name. -/
def Placed (columns : List String) (e : RuleEntry) : Prop := ∀ name, e.column = .name name → name ∈ columns

theorem Yields.placed {columns : List String} {e : RuleEntry} {h : Highlight} (hy : e.Yields columns h) :
    e.Placed columns := by
  intro name hname
  have hdenotes := hy.column
  rw [hname] at hdenotes
  cases hdenotes with
  | name hat => exact List.mem_of_getElem? hat

end RuleEntry

namespace Format

theorem getElem?_of_columnNamed? {f : Format} {name : String} {i : Nat} (h : f.columnNamed? name = some i) :
    f.columns[i]? = some name := by
  obtain ⟨hi, hname, -⟩ := List.findIdx?_eq_some_iff_getElem.1 h
  rw [List.getElem?_eq_getElem hi, of_decide_eq_true hname]

theorem columnNamed?_eq_none_iff {f : Format} {name : String} : f.columnNamed? name = none ↔ name ∉ f.columns := by
  unfold columnNamed?
  rw [List.findIdx?_eq_none_iff]
  constructor
  · intro h hmem
    have := h name hmem
    simp at this
  · intro h x hx
    have hne : x ≠ name := fun he => h (he ▸ hx)
    simpa using hne

end Format

namespace FormatFile

/-! ## Taking the entries -/

/-- How it ends when entries are taken into a format: with a highlight for each behind those that are there, or at the
first entry that is not placed. -/
inductive Outcome (f : Format) (entries : List RuleEntry) : Except ConfigFault Format → Prop
  | added {highlights : List Highlight} (h : List.Forall₂ (RuleEntry.Yields f.columns) entries highlights) :
    Outcome f entries (.ok { f with highlights := f.highlights ++ highlights })
  | stopped {before after : List RuleEntry} {e : RuleEntry} {name : String} (hentries : entries = before ++ e :: after)
    (hbefore : ∀ x ∈ before, x.Placed f.columns) (hname : e.column = .name name) (hno : name ∉ f.columns) :
    Outcome f entries (.error (.unknownColumn e.condition name))

theorem resolveColumn_cases (f : Format) (e : RuleEntry) :
    (∃ n, resolveColumn f e = .ok n ∧ e.column.Denotes f.columns n) ∨
      ∃ name, resolveColumn f e = .error (.unknownColumn e.condition name) ∧ e.column = .name name ∧
        name ∉ f.columns := by
  unfold resolveColumn
  cases hc : e.column with
  | index n => exact .inl ⟨n, rfl, .index n⟩
  | name s =>
    cases hs : f.columnNamed? s with
    | some i => exact .inl ⟨i, by simp [hs], .name (Format.getElem?_of_columnNamed? hs)⟩
    | none => exact .inr ⟨s, by simp [hs], rfl, Format.columnNamed?_eq_none_iff.1 hs⟩

/-- An entry adds its highlight, or it is not placed. -/
theorem addEntry_cases (f : Format) (e : RuleEntry) :
    (∃ h, (addEntry f e).value = .ok { f with highlights := f.highlights ++ [h] } ∧ e.Yields f.columns h) ∨
      ∃ name, (addEntry f e).value = .error (.unknownColumn e.condition name) ∧ e.column = .name name ∧
        name ∉ f.columns := by
  unfold addEntry
  rcases resolveColumn_cases f e with ⟨n, hn, hdenotes⟩ | ⟨name, hfault, hname⟩
  · rw [hn]
    exact .inl ⟨_, rfl, ⟨hdenotes, rfl, rfl, rfl, rfl, rfl⟩⟩
  · rw [hfault]
    exact .inr ⟨name, rfl, hname⟩

theorem addEntries_cons (f : Format) (e : RuleEntry) (rest : List RuleEntry) :
    (addEntries f (e :: rest)).value = match (addEntry f e).value with
      | .ok g => (addEntries g rest).value
      | .error fault => .error fault := by
  rw [addEntries, Logged.value_bind]
  cases (addEntry f e).value <;> rfl

/-- An entry that adds its highlight leaves the rest to what follows: the columns are what they were. -/
theorem Outcome.cons {f : Format} {e : RuleEntry} {h : Highlight} {rest : List RuleEntry}
    {result : Except ConfigFault Format} (hy : e.Yields f.columns h)
    (hrest : Outcome { f with highlights := f.highlights ++ [h] } rest result) : Outcome f (e :: rest) result := by
  cases hrest with
  | added hys =>
    rw [List.append_assoc]
    exact .added (.cons hy hys)
  | @stopped before after e' name hentries hbefore hname hno =>
    have hall : e :: rest = e :: before ++ e' :: after := congrArg (e :: ·) hentries
    refine .stopped hall (fun x hx => ?_) hname hno
    rcases List.mem_cons.1 hx with rfl | hx
    · exact hy.placed
    · exact hbefore x hx

/-- The entries are taken in their order. The induction is on those that are left. -/
theorem addEntries_outcome (f : Format) (entries : List RuleEntry) :
    Outcome f entries (addEntries f entries).value := by
  induction entries generalizing f with
  | nil =>
    have h : Outcome f [] (.ok { f with highlights := f.highlights ++ [] }) := .added .nil
    rwa [List.append_nil] at h
  | cons e rest ih =>
    rw [addEntries_cons]
    rcases addEntry_cases f e with ⟨h, hadd, hy⟩ | ⟨name, hadd, hname, hno⟩
    · rw [hadd]
      exact .cons hy (ih _)
    · rw [hadd]
      have hall : e :: rest = [] ++ e :: rest := rfl
      exact .stopped hall (by simp) hname hno

/-- It ends well if all entries are placed, and not else. -/
theorem Outcome.ok_iff {f : Format} {entries : List RuleEntry} {result : Except ConfigFault Format}
    (h : Outcome f entries result) : (∃ g, result = .ok g) ↔ ∀ e ∈ entries, e.Placed f.columns := by
  cases h with
  | added hys =>
    refine ⟨fun _ e he => ?_, fun _ => ⟨_, rfl⟩⟩
    obtain ⟨i, hi, rfl⟩ := List.getElem_of_mem he
    exact (hys.get hi (hys.length_eq ▸ hi)).placed
  | stopped hentries _ hname hno =>
    constructor
    · rintro ⟨g, hg⟩
      cases hg
    · intro hall
      refine absurd (hall _ ?_ _ hname) hno
      rw [hentries]
      exact List.mem_append_right _ List.mem_cons_self

/-! ## Whole files -/

/-- The highlights of a file's format are those that its entries describe, with these columns: one for each entry, in
their order. There is a format if every entry that names its column names one of them, and else the first entry that
does not is the failure. -/
structure FollowsEntries (file : FormatFile) (regex : Option Regex) (columns : List String) : Prop where
  succeeds : (∃ f, file.toFormat.value = .ok f) ↔
    ∀ e ∈ file.highlights, ∀ name, e.column = .name name → name ∈ columns
  format : ∀ f, file.toFormat.value = .ok f →
    f.name = file.name.getD "default" ∧ f.pattern = file.pattern ∧ f.regex = regex ∧ f.columns = columns ∧
      List.Forall₂ (RuleEntry.Yields columns) file.highlights f.highlights
  failure : ∀ fault, file.toFormat.value = .error fault →
    ∃ before e after name, file.highlights = before ++ e :: after ∧
      (∀ x ∈ before, ∀ name, x.column = .name name → name ∈ columns) ∧
      e.column = .name name ∧ name ∉ columns ∧ fault = .unknownColumn e.condition name

/-- The format of a file before its entries are taken. -/
def bare (file : FormatFile) : Format :=
  { (Format.new file.pattern).value with name := file.name.getD "default" }

theorem value_toFormat (file : FormatFile) : file.toFormat.value = (addEntries file.bare file.highlights).value := by
  unfold toFormat bare
  rw [Logged.value_bind]
  cases file.name with
  | some name => rfl
  | none =>
    have hname := (Format.fields_new file.pattern).1
    rw [Option.getD_none, ← hname]

theorem toFormat_outcome (file : FormatFile) : Outcome file.bare file.highlights file.toFormat.value := by
  rw [value_toFormat]
  exact addEntries_outcome file.bare file.highlights

theorem followsEntries (file : FormatFile) : file.FollowsEntries file.bare.regex file.bare.columns where
  succeeds := file.toFormat_outcome.ok_iff
  format f hf := by
    have houtcome := file.toFormat_outcome
    rw [hf] at houtcome
    obtain ⟨-, hpattern, hnone⟩ := Format.fields_new file.pattern
    cases houtcome with
    | @added highlights hys =>
      refine ⟨rfl, hpattern, rfl, rfl, ?_⟩
      have hall : file.bare.highlights ++ highlights = highlights := by
        rw [show file.bare.highlights = [] from hnone, List.nil_append]
      rwa [← hall] at hys
  failure fault hfault := by
    have houtcome := file.toFormat_outcome
    rw [hfault] at houtcome
    cases houtcome with
    | stopped hentries hbefore hname hno => exact ⟨_, _, _, _, hentries, hbefore, hname, hno, rfl⟩

end FormatFile

/-! ## From a text and from a path -/

theorem Text.decode?_encoded (text : String) : decode? text.toUTF8.data.toList = some text := by
  have hbytes : (⟨text.toUTF8.data.toList.toArray⟩ : ByteArray) = text.toUTF8 := rfl
  rw [decode?, hbytes]
  simp only [String.fromUTF8?, String.toUTF8_eq_toByteArray, dif_pos text.isValidUTF8]
  rfl

theorem Disk.readText_of_encoded {disk : Disk} {path text : String} {doc : File} (hfile : disk.file? path = some doc)
    (hbytes : doc.bytes = text.toUTF8.data.toList) : disk.readText path = .ok text := by
  rw [readText, file?_eq_some_iff.1 hfile]
  simp only [hbytes, Text.decode?_encoded]

namespace Format

/-- The file at a path is loaded as its text is. If the document gives no name, the format is named after the file. -/
structure LoadsAs (disk : Disk) (path text : String) : Prop where
  succeeds : (∃ f, (load disk path).value = .ok f) ↔ ∃ f, (ofText text).value = .ok f
  format : ∀ f, (ofText text).value = .ok f →
    ∃ file, FormatFile.parse text = .ok file ∧ f.name = file.name.getD "default" ∧
      (load disk path).value = .ok { f with name := (file.name.or (Path.fileStem? path)).getD "default" }

theorem ofText_ok_iff {text : String} {f : Format} :
    (ofText text).value = .ok f ↔ ∃ file, FormatFile.parse text = .ok file ∧ file.toFormat.value = .ok f := by
  unfold ofText
  cases FormatFile.parse text with
  | error fault => simp
  | ok file => cases h : file.toFormat.value <;> simp [h, Except.mapError]

/-- The name that a format gets from its file. -/
theorem named_after {f : Format} {own : Option String} (h : f.name = own.getD "default") (stem? : Option String) :
    (match own, stem? with
      | none, some stem => f.named stem
      | _, _ => f) = { f with name := (own.or stem?).getD "default" } := by
  cases own with
  | some name =>
    subst h
    rfl
  | none =>
    cases stem? with
    | some stem => rfl
    | none => rw [show ((none : Option String).or none).getD "default" = f.name from h.symm]

theorem load_ok_iff {disk : Disk} {path text : String} {g : Format} (h : disk.readText path = .ok text) :
    (load disk path).value = .ok g ↔ ∃ file f, FormatFile.parse text = .ok file ∧ file.toFormat.value = .ok f ∧
      g = { f with name := (file.name.or (Path.fileStem? path)).getD "default" } := by
  unfold load
  rw [h]
  simp only
  cases FormatFile.parse text with
  | error fault => simp
  | ok file =>
    rw [Logged.value_bind]
    cases hf : file.toFormat.value with
    | error fault => simp [hf]
    | ok f =>
      have hnamed := named_after (file.followsEntries.format f hf).1 (Path.fileStem? path)
      constructor
      · intro hg
        exact ⟨file, f, rfl, hf, (Except.ok.inj hg).symm.trans hnamed⟩
      · rintro ⟨file', f', hparse, hf', rfl⟩
        cases hparse
        rw [hf] at hf'
        cases hf'
        exact congrArg Except.ok hnamed

theorem loadsAs {disk : Disk} {path text : String} (h : disk.readText path = .ok text) : LoadsAs disk path text where
  succeeds := by
    constructor
    · rintro ⟨g, hg⟩
      obtain ⟨file, f, hparse, hf, -⟩ := (load_ok_iff h).1 hg
      exact ⟨f, ofText_ok_iff.2 ⟨file, hparse, hf⟩⟩
    · rintro ⟨f, hf⟩
      obtain ⟨file, hparse, hf⟩ := ofText_ok_iff.1 hf
      exact ⟨_, (load_ok_iff h).2 ⟨file, f, hparse, hf, rfl⟩⟩
  format f hf := by
    obtain ⟨file, hparse, hf⟩ := ofText_ok_iff.1 hf
    exact ⟨file, hparse, (file.followsEntries.format f hf).1, (load_ok_iff h).2 ⟨file, f, hparse, hf, rfl⟩⟩

end Format

/-- **A format file is loaded as it is written**, if its pattern compiles. It has a format if every entry that names
its column names one that the pattern makes, which the first named group is not; else the first entry that does not is
the failure. The format has a highlight for each entry, in their order: with the scope, the colors and the condition of
the entry, and for the column that it names, or the number that it gives whatever the columns are. Loading the
document from a path makes no difference to this but for the name, which is that of the file if the document gives
none. -/
theorem loaded_as_written (file : FormatFile) {r : Regex} (hr : Regex.compile file.pattern = .ok r) :
    file.FollowsEntries (some r) ((r.names.filterMap id).drop 1) ∧
    (∀ anchor, (r.names.filterMap id).head? = some anchor → anchor ∉ (r.names.filterMap id).drop 1) ∧
    ∀ (disk : Disk) path doc text, disk.file? path = some doc → doc.bytes = text.toUTF8.data.toList →
      Format.LoadsAs disk path text := by
  refine ⟨?_, fun anchor hanchor hmem => ?_, fun disk path doc text hfile hbytes => ?_⟩
  · have halign := Format.aligned_new hr
    have hfollows := file.followsEntries
    rwa [show file.bare.regex = some r from halign.regex,
      show file.bare.columns = (r.names.filterMap id).drop 1 from halign.columns_eq] at hfollows
  · obtain ⟨rest, hnames⟩ := List.head?_eq_some_iff.1 hanchor
    have hnodup := r.distinct
    rw [hnames] at hnodup hmem
    exact (List.nodup_cons.1 hnodup).1 hmem
  · exact Format.loadsAs (Disk.readText_of_encoded hfile hbytes)

/-- One entry names a column, one gives the number of a column that is not there. -/
def alerts : FormatFile where
  pattern := "(?<time>a)(?<level>b)(?<text>c)"
  highlights := [{ column := .name "text", scope := .row, condition := "== c" },
    { column := .index 7, condition := "?" }]

def alertsText : String := "pattern = \"(?<time>a)(?<level>b)\"\n"

def alertsDisk : Disk := ({} : Disk).rotate "etc/alerts.toml" alertsText.toUTF8.data.toList

theorem loaded_as_written_alerts :
    (∃ r, Regex.compile alerts.pattern = .ok r ∧
      alerts.FollowsEntries (some r) ((r.names.filterMap id).drop 1) ∧
      Format.LoadsAs alertsDisk "etc/alerts.toml" alertsText) ∧
    (alerts.toFormat.value.toOption.map fun f => (f.columns, f.highlights.map (·.column))) =
      some (["level", "text"], [1, 7]) ∧
    (Format.load alertsDisk "etc/alerts.toml").value.toOption.map (·.name) = some "alerts" := by
  refine ⟨?_, by decide +kernel, by decide +kernel⟩
  cases hr : Regex.compile alerts.pattern with
  | error fault =>
    have hok : (Regex.compile alerts.pattern).toOption.isSome = true := by decide +kernel
    rw [hr] at hok
    cases hok
  | ok r =>
    obtain ⟨hfollows, -, hloads⟩ := loaded_as_written alerts hr
    have hdoc : alertsDisk.file? "etc/alerts.toml" = some ⟨0, alertsText.toUTF8.data.toList, 0⟩ := by decide +kernel
    exact ⟨r, rfl, hfollows, hloads alertsDisk "etc/alerts.toml" _ alertsText hdoc rfl⟩

end LogTable
