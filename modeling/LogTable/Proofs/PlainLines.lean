import LogTable.Proofs.Columns
import LogTable.Proofs.DecodedLines
import LogTable.Proofs.Following
import LogTable.Proofs.Touching
import LogTable.Proofs.Trimming

/-!
# The plain format shows every line

The pattern of the plain format matches a text that has no newline, and captures all of it; it does not match any other.
A search runs through the pattern's program with a single thread. From the first character on it waits at the dot
(`WholeLine.visit_first`, `visit_next`), which reads any character but a newline, and at the end of the text it accepts
(`visit_last`). Once a newline has ended it there is nothing more: a later attempt does not get past the start of the
text (`visit_late`).

Lines that are split off bytes have no newline, whatever the bytes are, so every one parses. A line that has one is not
matched, and of such a line the last column, which is the only one here, shows the text as it is. So there is always
the line to be seen, up to the blanks around it.

Results: `plain_shows_every_line`.
-/
namespace LogTable

/-! ## Matching a whole line -/

namespace WholeLine

open Regex

/-- Every character but a newline. -/
def dot : Unicode.CodeSet := ⟨[(0, 9), (11, 0x10FFFF)]⟩

/-- The program of the pattern, built from its end. A thread starts at 10, waits at 5 for the dot to read a character,
goes on from there to 4, and accepts at 0. -/
def program : Program where
  entry := 10
  code := #[.accept, .save 1 0, .look .stop 1, .save 5 2, .split 5 3, .one dot 4, .save 4 4, .save 3 6, .save 2 7,
    .look .start 8, .save 0 9]

/-- That this is the program, and what the groups are. -/
theorem compiled :
    ∃ r, Regex.compile Format.wholeLine = .ok r ∧ r.names = [none, some "anchor", some "line"] ∧
      r.program = program := by
  have hparts : (Regex.compile Format.wholeLine).toOption.map (fun r => (r.names, r.program)) =
      some ([none, some "anchor", some "line"], program) := by decide +kernel
  cases h : Regex.compile Format.wholeLine with
  | error fault =>
    rw [h] at hparts
    cases hparts
  | ok r =>
    rw [h] at hparts
    obtain ⟨hnames, hprogram⟩ := Prod.mk.inj (Option.some.inj hparts)
    exact ⟨r, rfl, hnames, hprogram⟩

theorem contains_dot (c : Char) : dot.contains c.toNat = !decide (c = '\n') := by
  have hmax : c.toNat < 0x110000 := by
    rcases c.valid with h | h
    · exact Nat.lt_trans h (by decide)
    · exact h.2
  have hnewline : c = '\n' ↔ c.toNat = 10 := Char.toNat_inj.symm
  rw [Bool.eq_iff_iff]
  simp only [dot, Unicode.CodeSet.contains, List.any_cons, List.any_nil, Bool.or_false, Bool.or_eq_true,
    Bool.and_eq_true, decide_eq_true_eq, Bool.not_eq_true', decide_eq_false_iff_not, hnewline]
  omega

/-- The slots while the line is read. -/
def begun : Slots := [some 0, none, some 0, some 0, some 0, none]

/-- The slots of a match that ends at a place. -/
def ended (stop : Nat) : Slots := [some 0, some stop, some 0, some 0, some 0, some stop]

/-- At the start of the text the thread gets as far as the dot. -/
theorem visit_first (c : Char) : program.visit 6 ⟨0, none, some c⟩ ⟨[], none⟩ = ⟨[⟨5, begun⟩], none⟩ := by
  simp [Program.visit, Program.follow, Program.spread, program, Look.holds, begun, List.replicate]

theorem found_empty : (program.visit 6 ⟨0, none, none⟩ ⟨[], none⟩).found = some (ended 0) := by
  simp [Program.visit, Program.follow, Program.spread, program, Look.holds, ended, List.replicate]

/-- Between two characters it goes back to the dot, and the attempt that starts there fails. -/
theorem visit_next (n : Nat) (b c : Char) :
    program.visit 6 ⟨n, some b, some c⟩ ⟨[⟨4, begun⟩], none⟩ = ⟨[⟨5, begun⟩], none⟩ := by
  simp [Program.visit, Program.follow, Program.spread, program, Look.holds, begun, List.replicate]

theorem visit_last (n : Nat) (b : Char) :
    (program.visit 6 ⟨n, some b, none⟩ ⟨[⟨4, begun⟩], none⟩).found = some (ended n) := by
  simp [Program.visit, Program.follow, Program.spread, program, Look.holds, begun, ended, List.replicate]

theorem visit_late (n : Nat) (b : Char) (after : Option Char) :
    program.visit 6 ⟨n, some b, after⟩ ⟨[], none⟩ = ⟨[], none⟩ := by
  simp [Program.visit, Program.follow, Program.spread, program, Look.holds, List.replicate]

theorem advance_dot (c : Char) (s : Slots) :
    program.advance c [⟨5, s⟩] = if c = '\n' then [] else [⟨4, s⟩] := by
  have hread : program.code[5]? = some (.one dot 4) := rfl
  simp only [Program.advance, hread, Option.bind_some, Inst.read?, contains_dot, List.filterMap_cons,
    List.filterMap_nil]
  by_cases h : c = '\n' <;> simp [h]

/-- Without a thread nothing is found. -/
theorem searchFrom_late (n : Nat) (b : Char) (cs : List Char) :
    program.searchFrom 6 n (some b) ⟨[], none⟩ cs = none := by
  induction cs generalizing n b with
  | nil => simp only [Program.searchFrom, visit_late]
  | cons c rest ih =>
    simp only [Program.searchFrom, visit_late, List.isEmpty_nil, Option.isSome_none, Bool.and_false, Bool.false_eq_true,
      if_false]
    exact ih (n + 1) c

/-- A thread that waits at the dot is ended by a newline, and goes on from any other character. -/
theorem searchFrom_dot {n : Nat} {before : Option Char} {c : Char} {s : Progress} (rest : List Char)
    (h : program.visit 6 ⟨n, before, some c⟩ s = ⟨[⟨5, begun⟩], none⟩) :
    program.searchFrom 6 n before s (c :: rest) =
      if c = '\n' then none else program.searchFrom 6 (n + 1) (some c) ⟨[⟨4, begun⟩], none⟩ rest := by
  simp only [Program.searchFrom, h, List.isEmpty_cons, Bool.false_and, Bool.false_eq_true, if_false, advance_dot]
  split
  · exact searchFrom_late (n + 1) c rest
  · rfl

/-- The rest of a text, behind characters that the dot has read. The match ends where the text does. -/
theorem searchFrom_begun (n : Nat) (b : Char) (cs : List Char) :
    program.searchFrom 6 n (some b) ⟨[⟨4, begun⟩], none⟩ cs =
      if '\n' ∈ cs then none else some (ended (n + cs.length)) := by
  induction cs generalizing n b with
  | nil =>
    rw [if_neg List.not_mem_nil]
    exact visit_last n b
  | cons c rest ih =>
    rw [searchFrom_dot rest (visit_next n b c), ih]
    by_cases h : c = '\n'
    · simp [h]
    · have hlength : n + 1 + rest.length = n + (rest.length + 1) := by omega
      simp [h, Ne.symm h, hlength]

/-- Only the first character has none before it, so the thread gets to the dot there by another way than later on. -/
theorem search_eq (cs : List Char) : program.search 6 cs = if '\n' ∈ cs then none else some (ended cs.length) := by
  unfold Program.search
  cases cs with
  | nil =>
    rw [if_neg List.not_mem_nil]
    exact found_empty
  | cons c rest =>
    rw [searchFrom_dot rest (visit_first c), searchFrom_begun]
    by_cases h : c = '\n'
    · simp [h]
    · have hlength : 0 + 1 + rest.length = rest.length + 1 := by omega
      simp [h, Ne.symm h, hlength]

/-- The groups of a match: the whole text, nothing of it, and the line. -/
theorem captures_eq {r : Regex} (hnames : r.names = [none, some "anchor", some "line"]) (hprogram : r.program = program)
    (text : String) :
    r.captures? text = if '\n' ∈ text.toList then none else some [some text, some "", some text] := by
  have hall : between text.toList (some (some 0)) (some (some text.toList.length)) = some text := by
    simp only [between, List.drop_zero, Nat.sub_zero, List.take_length, String.ofList_toList]
  have hnone : between text.toList (some (some 0)) (some (some 0)) = some "" := rfl
  unfold captures?
  simp only [hnames, hprogram]
  rw [show 2 * [none, some "anchor", some "line"].length = 6 from rfl, search_eq]
  split
  · rfl
  · exact congrArg some (congrArg₂ List.cons hall (congrArg₂ List.cons hnone (congrArg₂ List.cons hall rfl)))

end WholeLine

/-! ## Reading a line -/

/-- A name does not change what columns a format has. -/
theorem Format.Aligned.named {f : Format} {r : Regex} (h : f.Aligned r) (name : String) : (f.named name).Aligned r :=
  ⟨h.regex, h.columns, h.groups⟩

theorem Format.highlights_named (f : Format) (name : String) : (f.named name).highlights = f.highlights := rfl

theorem plain_eq : Format.plain.value = (Format.new Format.wholeLine).value.named "plain" := rfl

/-- The first group only anchors the pattern, so the line makes the only column. Here and below the format has a name of
its own, so that nothing looks for its fields by compiling the pattern. -/
theorem plain_fields {f : Format} (hf : f = Format.plain.value) :
    (∃ r, f.regex = some r ∧ r.names = [none, some "anchor", some "line"] ∧ r.program = WholeLine.program) ∧
      f.columns = ["line"] ∧ f.groups = [2] ∧ f.highlights = [] := by
  obtain ⟨r, hr, hnames, hprogram⟩ := WholeLine.compiled
  obtain ⟨hregex, hcolumns, hgroups⟩ := (Format.aligned_new hr).named "plain"
  have hdata : Format.dataGroups r = [("line", 2)] := by
    simp only [Format.dataGroups, Format.namedGroups, hnames]
    rfl
  rw [hdata] at hcolumns hgroups
  rw [hf, plain_eq]
  refine ⟨⟨r, hregex, hnames, hprogram⟩, hcolumns, hgroups, ?_⟩
  rw [Format.highlights_named]
  exact (Format.fields_new _).2.2

/-- A line parses if and only if it has no newline; its one cell is then the line without the blanks around it. -/
theorem parse_plain {f : Format} (hf : f = Format.plain.value) (raw : String) :
    Line.parse f raw = if '\n' ∈ raw.toList then .unparsed else .parsed [{ text := Unicode.trim raw }] := by
  obtain ⟨⟨r, hregex, hnames, hprogram⟩, hcolumns, hgroups, -⟩ := plain_fields hf
  unfold Line.parse
  simp only [hregex, hcolumns, List.isEmpty_cons, Bool.false_eq_true, if_false, hgroups,
    WholeLine.captures_eq hnames hprogram]
  by_cases h : '\n' ∈ raw.toList
  · simp only [if_pos h]
  · simp only [if_neg h]
    rfl

/-- It has no highlights that could color the cell. -/
theorem read_plain {f : Format} (hf : f = Format.plain.value) (raw : String) :
    Line.read f raw = Line.parse f raw := by
  obtain ⟨-, -, -, hhighlights⟩ := plain_fields hf
  unfold Line.read
  rw [parse_plain hf]
  split
  · rfl
  · simp only [paint, hhighlights]
    rfl

/-! ## Showing lines -/

/-- A text without some blanks, if any, that stand around it. -/
def Framed (text raw : String) : Prop :=
  ∃ front back, Unicode.Blanks front ∧ Unicode.Blanks back ∧ raw.toList = front ++ text.toList ++ back

theorem framed_self (raw : String) : Framed raw raw :=
  ⟨[], [], Unicode.blanks_nil, Unicode.blanks_nil, (List.append_nil _).symm⟩

theorem framed_trim (raw : String) : Framed (Unicode.trim raw) raw := by
  obtain ⟨front, back, hraw, hfront, hback, -⟩ := Unicode.exists_trimChars raw.toList
  refine ⟨front, back, hfront, hback, ?_⟩
  rw [Unicode.trim, String.toList_ofList]
  exact hraw

/-- What is shown of a line. -/
def plainText (raw : String) : String := if '\n' ∈ raw.toList then raw else Unicode.trim raw

theorem framed_plainText (raw : String) : Framed (plainText raw) raw := by
  unfold plainText
  split
  · exact framed_self raw
  · exact framed_trim raw

namespace Sheet

variable {s : Sheet} {f : Format} {row : Nat} {raw : String}

theorem cell?_plain (hs : s.format = some f) (hf : f = Format.plain.value) (hr : s.lines[row]? = some raw) :
    s.cell? row 0 = some { text := plainText raw } := by
  have hcount : f.columnCount = 1 := congrArg List.length (plain_fields hf).2.1
  unfold cell? plainText
  simp only [hs, hr, hcount, read_plain hf, parse_plain hf]
  by_cases h : '\n' ∈ raw.toList <;> simp [h]

theorem row?_plain (hs : s.format = some f) (hf : f = Format.plain.value) (hr : s.lines[row]? = some raw) :
    s.row? row = some [{ text := plainText raw }] := by
  have hcount : f.columnCount = 1 := congrArg List.length (plain_fields hf).2.1
  unfold row? cells
  simp only [hs, hr, hcount]
  rw [List.range_one, List.map_singleton, cell?_plain hs hf hr, Option.getD_some]

end Sheet

namespace Desk

/-- Lines that come behind others with a property, and have it, leave lines that all have it. -/
theorem forall_mem_liveAll {P : String → Prop} {d : Desk} {ms : List Moment} (hlines : ∀ raw ∈ d.lines, P raw)
    (happended : ∀ more, .append more ∈ ms → ∀ raw ∈ more, P raw) : ∀ raw ∈ (d.liveAll ms).value.lines, P raw := by
  induction ms generalizing d with
  | nil => exact hlines
  | cons m rest ih =>
    refine ih ?_ fun more hmore => happended more (List.mem_cons_of_mem m hmore)
    rw [lines_live]
    cases m with
    | inquire i => exact hlines
    | grown c => exact hlines
    | append more =>
      intro raw hraw
      rcases Array.mem_append.1 hraw with hraw | hraw
      · exact hlines raw hraw
      · exact happended more List.mem_cons_self raw hraw

/-- Whatever happens after a format has been taken up, the table is one after some rows have been touched. -/
theorem exists_watched (t : Table) (f : Format) (lines : Lines) {ms : List Moment}
    (hgrown : ∀ c, .grown c ∈ ms → c.grows = true) :
    let run := Desk.liveAll ⟨(t.setFormat f).value, lines⟩ ms
    ∃ rows, Watched f run.value.lines run.value.table rows run.records := by
  have h := watched_liveAll (d := ⟨(t.setFormat f).value, lines⟩)
    (watched_reset (t := { t with format := some f }) rfl lines) hgrown
  rw [List.nil_append, List.nil_append] at h
  exact ⟨_, h⟩

end Desk

theorem newline_not_mem_ofBytes {bytes : List UInt8} {raw : String} (h : raw ∈ Lines.ofBytes bytes) :
    '\n' ∉ raw.toList :=
  newline_not_mem_linesOf (List.mem_toArray.1 h)

namespace Watched

variable {f : Format} {d : Desk} {rows : List Nat} {records : List Record}
  (h : Watched f d.lines d.table rows records) (hf : f = Format.plain.value)
include h hf

/-- Nothing is reported of lines without newlines. -/
theorem warnings_plain (hlines : ∀ raw ∈ d.lines, '\n' ∉ raw.toList) : warnings records = [] := by
  rw [h.warned, List.filterMap_eq_nil_iff]
  intro row hrow
  have hpresent := h.present row (List.mem_eraseDups.1 hrow)
  have hr := Array.getElem?_eq_getElem hpresent
  have hparse := parse_plain hf d.lines[row]
  rw [if_neg (hlines _ (Array.getElem_mem _))] at hparse
  simp only [report?, hr, Option.bind_some, hparse, reduceCtorEq, if_false]

theorem cell?_plain {row : Nat} {raw : String} (hr : d.lines[row]? = some raw) :
    d.cell? row 0 = some { text := plainText raw } :=
  (Table.cell?_answers h.fresh row 0).value.trans (Sheet.cell?_plain h.format hf hr)

theorem row?_plain {row : Nat} {raw : String} (hr : d.lines[row]? = some raw) :
    d.row? row = some [{ text := plainText raw }] :=
  (Table.row?_answers h.fresh row).value.trans (Sheet.row?_plain h.format hf hr)

end Watched

/-- **The plain format shows every line.** What a log file has when it is opened are the lines of its bytes. Let a table
take up the plain format, over the lines of any bytes, and let anything be asked of it while more such lines come. Then
every line parses, its row has one cell with the line without the blanks around it, and nothing is ever reported. Over
any lines at all, with newlines or not, the only cell of each row shows the line up to blanks around it. -/
theorem plain_shows_every_line :
    let plain := Format.plain.value
    plain.columns = ["line"] ∧
    (∀ disk path follower, Follower.open? disk path = .ok follower →
      ∃ file, disk.file? path = some file ∧ follower.lines = Lines.ofBytes file.bytes) ∧
    (∀ (t : Table) bytes ms, (∀ c, .grown c ∈ ms → c.grows = true) →
      (∀ more, .append more ∈ ms → ∃ later, more = Lines.ofBytes later) →
      let run := Desk.liveAll ⟨(t.setFormat plain).value, Lines.ofBytes bytes⟩ ms
      let d := run.value
      warnings run.records = [] ∧
      ∀ row raw, d.lines[row]? = some raw →
        Line.read plain raw = .parsed [{ text := Unicode.trim raw }] ∧
          d.row? row = some [{ text := Unicode.trim raw }]) ∧
    ∀ (t : Table) lines ms, (∀ c, .grown c ∈ ms → c.grows = true) →
      let d := (Desk.liveAll ⟨(t.setFormat plain).value, lines⟩ ms).value
      ∀ row raw, d.lines[row]? = some raw →
        ∃ text, d.cell? row 0 = some { text } ∧ d.row? row = some [{ text }] ∧ Framed text raw := by
  intro plain
  refine ⟨(plain_fields rfl).2.1, fun disk path follower hopen => ?_, fun t bytes ms hgrown happended => ?_,
    fun t lines ms hgrown => ?_⟩
  · obtain ⟨file, hfile, rfl⟩ := Follower.open?_ok hopen
    exact ⟨file, hfile, rfl⟩
  · intro run d
    obtain ⟨rows, h⟩ := Desk.exists_watched t plain (Lines.ofBytes bytes) hgrown
    have hlines : ∀ raw ∈ d.lines, '\n' ∉ raw.toList := by
      refine Desk.forall_mem_liveAll (fun raw => newline_not_mem_ofBytes) fun more hmore => ?_
      obtain ⟨later, rfl⟩ := happended more hmore
      exact fun raw => newline_not_mem_ofBytes
    refine ⟨h.warnings_plain rfl hlines, fun row raw hr => ?_⟩
    have hraw := hlines raw (Array.mem_of_getElem? hr)
    have hrow := h.row?_plain rfl hr
    rw [plainText, if_neg hraw] at hrow
    refine ⟨?_, hrow⟩
    rw [read_plain rfl, parse_plain rfl, if_neg hraw]
  · intro d row raw hr
    obtain ⟨rows, h⟩ := Desk.exists_watched t plain lines hgrown
    exact ⟨plainText raw, h.cell?_plain rfl hr, h.row?_plain rfl hr, framed_plainText raw⟩

end LogTable
