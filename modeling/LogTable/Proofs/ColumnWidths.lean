import Mathlib.Data.List.TakeWhile
import LogTable.Screen.Draw
import LogTable.Proofs.TextCells

/-!
# Column widths

A column is meant to be as wide as the widest text in it, up to forty cells. What it gets is the number of characters
of its longest text, while a terminal draws text by cells. A text is drawn whole exactly if it takes no more cells than
its column has (`uncut_iff`): clusters are placed while they fit, so either all of them are or the cells run out. A
text of wide characters is cut in a column that was measured by it.

The width is right exactly if the widest text takes as many cells as the longest has characters, both up to forty: each
text has one in the column with as many characters as it takes cells, and one that takes as many cells as it has
characters (`Sized.le_iff`, once in each direction). Texts of characters that take one cell each are of this kind, and
a text without wide characters is never cut.

Results: `columns_fit_unless_wider_than_long`, and `wide_text_cut` with three wide characters.
-/
namespace LogTable.Screen

open Text

/-! ## Texts in cells -/

theorem Glyphs.length_cells_add (g : Glyphs) (c : List Char) :
    (g.add c).cells.length = g.cells.length + clusterWidth c := by
  simp only [add]
  split
  · rename_i hnone _
    rw [hnone]
    rfl
  · rename_i hnone _
    rw [hnone]
    rfl
  · rename_i hnone hcells
    rw [hnone, hcells]
    rfl
  · rename_i w hw
    simp only [hw, List.length_append, List.length_replicate, List.length_cons]
    omega

theorem Glyphs.length_cells_foldl_add (g : Glyphs) (cs : List (List Char)) :
    (cs.foldl add g).cells.length = g.cells.length + (cs.map clusterWidth).sum := by
  induction cs generalizing g with
  | nil => rfl
  | cons c rest ih => rw [List.foldl_cons, ih, length_cells_add, List.map_cons, List.sum_cons, Nat.add_assoc]

/-- Where there is room for all clusters all are placed. -/
theorem Glyphs.place_of_le {room : Nat} {g : Glyphs} {cs : List (List Char)}
    (h : g.cells.length + (cs.map clusterWidth).sum ≤ room) : g.place room cs = cs.foldl add g := by
  induction cs generalizing g with
  | nil => rfl
  | cons c rest ih =>
    rw [List.map_cons, List.sum_cons] at h
    rw [place, if_pos (by omega), List.foldl_cons, ih]
    rw [length_cells_add]
    omega

/-- A line is drawn alike wherever there is room for it. -/
theorem lineTexts_of_le {room : Nat} {line : List Char} (h : width line ≤ room) :
    lineTexts room line = if width line = 0 then [] else ((graphemes line).foldl Glyphs.add {}).texts := by
  have hplace : Glyphs.place room {} (graphemes line) = (graphemes line).foldl Glyphs.add {} := by
    apply Glyphs.place_of_le
    rwa [← width_eq_sum, List.length_nil, Nat.zero_add]
  rw [lineTexts, hplace]

theorem length_lineTexts_of_le {room : Nat} {line : List Char} (h : width line ≤ room) :
    (lineTexts room line).length = width line := by
  have hlength : ((graphemes line).foldl Glyphs.add {}).cells.length = width line := by
    rw [Glyphs.length_cells_foldl_add, ← width_eq_sum, List.length_nil, Nat.zero_add]
  rw [lineTexts_of_le h]
  split_ifs with hnone
  · rw [hnone, List.length_nil]
  · have hcells : ((graphemes line).foldl Glyphs.add {}).cells ≠ [] := by
      rw [← List.length_pos_iff]
      omega
    rw [Glyphs.texts, List.isEmpty_eq_false_iff.2 hcells]
    simpa using hlength

/-- What `paint` puts into the cells of a column of this width. -/
def shown (room : Nat) (line : List Char) : List String := (lineTexts room line).take room

/-- The column shows as much of the line as any wider column. -/
def Uncut (room : Nat) (line : List Char) : Prop := ∀ more, shown (room + more) line = shown room line

theorem shown_of_le {room : Nat} {line : List Char} (h : width line ≤ room) :
    shown room line = lineTexts room line := by
  rw [shown, List.take_of_length_le]
  rwa [length_lineTexts_of_le h]

/-- A line is cut exactly where its column has fewer cells than it takes. -/
theorem uncut_iff {room : Nat} {line : List Char} : Uncut room line ↔ width line ≤ room := by
  constructor
  · intro h
    have hwider : width line ≤ room + width line := Nat.le_add_left _ _
    calc width line
      _ = (shown (room + width line) line).length := by rw [shown_of_le hwider, length_lineTexts_of_le hwider]
      _ = (shown room line).length := by rw [h]
      _ ≤ room := List.length_take_le _ _
  · intro h more
    have hwider : width line ≤ room + more := Nat.le_add_right_of_le h
    rw [shown_of_le hwider, shown_of_le h, lineTexts_of_le hwider, lineTexts_of_le h]

/-- The cells that a text takes where it is drawn, which is its first line. -/
def cells (text : String) : Nat := width (firstLine text)

theorem firstLine_sublist (text : String) : (firstLine text).Sublist text.toList := by
  simp only [firstLine]
  split_ifs
  · exact (List.dropLast_sublist _).trans (List.takeWhile_sublist _)
  · exact List.takeWhile_sublist _

theorem length_firstLine_le (text : String) : (firstLine text).length ≤ text.length := by
  rw [← String.length_toList]
  exact (firstLine_sublist text).length_le

theorem firstLine_of_one_line {text : String} (h : '\n' ∉ text.toList) : firstLine text = text.toList := by
  have hall : text.toList.takeWhile (· ≠ '\n') = text.toList := by
    rw [List.takeWhile_eq_self_iff]
    intro c hc
    simp only [ne_eq, decide_not, Bool.not_eq_true', decide_eq_false_iff_not]
    rintro rfl
    exact h hc
  simp only [firstLine, hall, String.length_toList, Nat.lt_irrefl, decide_false, Bool.false_and, Bool.false_eq_true,
    if_false]

theorem cells_le_length {text : String} (h : ∀ c ∈ text.toList, charWidth c ≤ 1) : cells text ≤ text.length :=
  Nat.le_trans (width_le_length fun c hc => h c ((firstLine_sublist text).mem hc)) (length_firstLine_le text)

theorem cells_eq_length {text : String} (h : ∀ c ∈ text.toList, charWidth c = 1 ∧ c ≠ '\n') :
    cells text = text.length := by
  have hline : '\n' ∉ text.toList := fun hmem => (h _ hmem).2 rfl
  unfold cells
  rw [firstLine_of_one_line hline, width_eq_length (fun c hc => (h c hc).1) hline, String.length_toList]

/-! ## The texts of a column -/

/-- The header of a column and what the rows that reach it have in it. -/
def columnTexts (s : Snapshot) (column : Nat) : List String :=
  s.headers[column]?.toList ++ (s.rows.filterMap (·[column]?)).map (·.text)

/-- The smaller of the most that one of the texts measures and of the widest that a column may be. -/
def Sized (measure : String → Nat) (texts : List String) (n : Nat) : Prop :=
  ∃ most, (texts.map measure).max? = some most ∧ n = min most widestColumn

theorem exists_sized (measure : String → Nat) {texts : List String} (h : texts ≠ []) :
    ∃ n, Sized measure texts n := by
  have hsome : (texts.map measure).max?.isSome = true := List.isSome_max?_of_ne_nil (by simpa using h)
  obtain ⟨most, hmost⟩ := Option.isSome_iff_exists.1 hsome
  exact ⟨_, most, hmost, rfl⟩

theorem Sized.texts_ne_nil {measure : String → Nat} {texts : List String} {n : Nat} (h : Sized measure texts n) :
    texts ≠ [] := by
  obtain ⟨most, hmost, -⟩ := h
  rintro rfl
  cases hmost

/-- One of the texts measures the most. -/
theorem Sized.exists_most {measure : String → Nat} {texts : List String} {n : Nat} (h : Sized measure texts n) :
    ∃ t ∈ texts, n = min (measure t) widestColumn ∧ ∀ u ∈ texts, measure u ≤ measure t := by
  obtain ⟨most, hmost, hn⟩ := h
  obtain ⟨hmem, hall⟩ := List.max?_eq_some_iff.1 hmost
  obtain ⟨t, ht, rfl⟩ := List.mem_map.1 hmem
  exact ⟨t, ht, hn, fun u hu => hall _ (List.mem_map_of_mem hu)⟩

/-- Two measures of a column compare as they do on its texts. -/
theorem Sized.le_iff {f g : String → Nat} {texts : List String} {m n : Nat} (hm : Sized f texts m)
    (hn : Sized g texts n) : m ≤ n ↔ ∀ t ∈ texts, ∃ u ∈ texts, min (f t) widestColumn ≤ g u := by
  obtain ⟨t, ht, rfl, hmost⟩ := hm.exists_most
  obtain ⟨u, hu, rfl, hmost'⟩ := hn.exists_most
  constructor
  · intro h x hx
    have hle := hmost x hx
    exact ⟨u, hu, by omega⟩
  · intro h
    obtain ⟨x, hx, hle⟩ := h t ht
    have hbound := hmost' x hx
    omega

theorem Sized.iff_of_sized {f g : String → Nat} {texts : List String} {n : Nat} (h : Sized f texts n) :
    Sized g texts n ↔ (∀ t ∈ texts, ∃ u ∈ texts, min (g t) widestColumn ≤ f u) ∧
      ∀ t ∈ texts, ∃ u ∈ texts, min (f t) widestColumn ≤ g u := by
  constructor
  · intro hg
    exact ⟨(hg.le_iff h).1 (Nat.le_refl n), (h.le_iff hg).1 (Nat.le_refl n)⟩
  · rintro ⟨hle, hge⟩
    obtain ⟨k, hk⟩ := exists_sized g h.texts_ne_nil
    have heq : k = n := Nat.le_antisymm ((hk.le_iff h).2 hle) ((h.le_iff hk).2 hge)
    exact heq ▸ hk

/-- Where the two measures agree on the texts they agree on the column. -/
theorem Sized.congr {f g : String → Nat} {texts : List String} {n : Nat} (h : Sized f texts n)
    (heq : ∀ t ∈ texts, g t = f t) : Sized g texts n := by
  unfold Sized
  rwa [List.map_congr_left heq]

/-- In a column measured by characters a text needs one with as many characters as it takes cells. -/
theorem Sized.uncut_iff {texts : List String} {n : Nat} (h : Sized String.length texts n) {t : String}
    (ht : cells t ≤ widestColumn) : Uncut n (firstLine t) ↔ ∃ u ∈ texts, cells t ≤ u.length := by
  obtain ⟨longest, hlongest, rfl, hmost⟩ := h.exists_most
  rw [Screen.uncut_iff]
  constructor
  · intro hroom
    exact ⟨longest, hlongest, Nat.le_trans hroom (Nat.min_le_left _ _)⟩
  · rintro ⟨u, hu, hle⟩
    exact Nat.le_min.2 ⟨Nat.le_trans hle (hmost u hu), ht⟩

/-! ## Requested widths -/

theorem sized_longest {s : Snapshot} {column : Nat} {header : String} (h : s.headers[column]? = some header) :
    Sized String.length (columnTexts s column) (min (longest s header column) widestColumn) := by
  refine ⟨longest s header column, ?_, rfl⟩
  unfold columnTexts longest
  rw [h, Option.toList_some, List.singleton_append, List.map_cons, List.max?_cons', List.map_map]
  rfl

theorem textWidths_of_last {s : Snapshot} {i : Nat} (h : i + 1 = s.headers.length) :
    (textWidths s)[i]? = some .fill := by
  unfold textWidths
  rw [List.getElem?_mapIdx, List.getElem?_eq_getElem (by omega), Option.map_some, if_pos h]

theorem textWidths_of_lt {s : Snapshot} {i : Nat} (h : i + 1 < s.headers.length) :
    ∃ n, (textWidths s)[i]? = some (.length n) ∧ Sized String.length (columnTexts s i) n := by
  have hi : i < s.headers.length := Nat.lt_of_succ_lt h
  refine ⟨_, ?_, sized_longest (List.getElem?_eq_getElem hi)⟩
  unfold textWidths
  rw [List.getElem?_mapIdx, List.getElem?_eq_getElem hi, Option.map_some, if_neg (Nat.ne_of_lt h)]

/-- **Columns are as wide as what they show, unless texts are wider than they are long.** There is a width for each
column, and the last column takes what the others leave. Every other one has as many cells as its longest text has
characters, up to the widest that a column may be. These are the cells of its widest text exactly if each text has one
in the column with as many characters as it takes cells, and one that takes as many cells as it has characters; so it
is if the texts have one line each and all their characters take one cell. A text that takes no more cells than the
widest column is drawn whole exactly if some text of the column has as many characters as it takes cells; so it is if
it has no wide characters. -/
theorem columns_fit_unless_wider_than_long (s : Snapshot) :
    (textWidths s).length = s.headers.length ∧
    (∀ i, i + 1 = s.headers.length → (textWidths s)[i]? = some .fill) ∧
    ∀ i, i + 1 < s.headers.length → ∃ n, (textWidths s)[i]? = some (.length n) ∧
      Sized String.length (columnTexts s i) n ∧
      (Sized cells (columnTexts s i) n ↔
        (∀ t ∈ columnTexts s i, ∃ u ∈ columnTexts s i, min (cells t) widestColumn ≤ u.length) ∧
          ∀ t ∈ columnTexts s i, ∃ u ∈ columnTexts s i, min t.length widestColumn ≤ cells u) ∧
      ((∀ t ∈ columnTexts s i, ∀ c ∈ t.toList, charWidth c = 1 ∧ c ≠ '\n') → Sized cells (columnTexts s i) n) ∧
      ∀ t ∈ columnTexts s i, cells t ≤ widestColumn →
        (Uncut n (firstLine t) ↔ ∃ u ∈ columnTexts s i, cells t ≤ u.length) ∧
        ((∀ c ∈ t.toList, charWidth c ≤ 1) → Uncut n (firstLine t)) := by
  refine ⟨List.length_mapIdx, fun i => textWidths_of_last, fun i hi => ?_⟩
  obtain ⟨n, hwidth, hsized⟩ := textWidths_of_lt hi
  refine ⟨n, hwidth, hsized, hsized.iff_of_sized, fun hone => ?_, fun t ht hcells => ⟨hsized.uncut_iff hcells, ?_⟩⟩
  · exact hsized.congr fun t ht => cells_eq_length (hone t ht)
  · intro hnarrow
    exact (hsized.uncut_iff hcells).2 ⟨t, ht, cells_le_length hnarrow⟩

/-- A column with three wide characters, and a row that has no cell in it. -/
def wideTable : Snapshot where
  headers := ["id", "text"]
  rows := [[{ text := "日本語" }, { text := "x" }], []]

/-- The column has three cells, and its widest text takes six. -/
theorem wide_text_cut :
    (textWidths wideTable)[0]? = some (.length 3) ∧ "日本語" ∈ columnTexts wideTable 0 ∧ cells "日本語" = 6 ∧
      ¬ Uncut 3 (firstLine "日本語") ∧ ¬ Sized cells (columnTexts wideTable 0) 3 := by
  have hcells : cells "日本語" = 6 := by decide +kernel
  have hmem : "日本語" ∈ columnTexts wideTable 0 := by simp [columnTexts, wideTable]
  refine ⟨by rfl, hmem, hcells, fun huncut => ?_, fun hsized => ?_⟩
  · have hroom : cells "日本語" ≤ 3 := uncut_iff.1 huncut
    omega
  · obtain ⟨t, -, hthree, hmost⟩ := hsized.exists_most
    have hle := hmost _ hmem
    have hwidest : widestColumn = 40 := rfl
    omega

end LogTable.Screen
