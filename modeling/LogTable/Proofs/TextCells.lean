import Mathlib.Algebra.Order.BigOperators.Group.List
import Mathlib.Algebra.Order.Ring.Nat
import LogTable.Text.Width

/-!
# Cells and characters

A text takes cells by its grapheme clusters, and clusters are made of its characters, so the cells of a text can be
held against the number of its characters cluster by cluster. Where no character is wide, no cluster takes more cells
than it has characters (`width_le_length`): a variation selector may make a picture wide, but has no cell of its own.
Where every character takes one cell, a cluster takes exactly as many (`width_eq_length`), unless it is the end of a
line or holds two pictures. Two pictures need a joiner between them, and a joiner takes no cell (`OnePicture`).

From the tables this needs that some sets of characters lie within others and some apart (`CodeSet.within`,
`CodeSet.apart`), which is checked range by range. The text of a table is taken apart into characters before that
(`setOf?_of_row`).

Results: `width_le_length`, `width_eq_length`.
-/
namespace LogTable

/-! ## Sets of code points -/

namespace Unicode

namespace CodeSet

theorem contains_iff {s : CodeSet} {n : Nat} : s.contains n = true ↔ ∃ r ∈ s.ranges, r.1 ≤ n ∧ n ≤ r.2 := by
  simp [contains]

-- Tables have hundreds of ranges each, so these are compared by `Nat.ble` and `Nat.blt`, which evaluate fast.

/-- Each range of the one set lies in a range of the other. -/
def within (s t : CodeSet) : Bool := s.ranges.all fun r => t.ranges.any fun u => u.1.ble r.1 && r.2.ble u.2

/-- No range of the one set meets a range of the other. -/
def apart (s t : CodeSet) : Bool := s.ranges.all fun r => t.ranges.all fun u => r.2.blt u.1 || u.2.blt r.1

theorem contains_of_within {s t : CodeSet} {n : Nat} (h : s.within t = true) (hn : s.contains n = true) :
    t.contains n = true := by
  obtain ⟨r, hr, hlow, hhigh⟩ := contains_iff.1 hn
  obtain ⟨u, hu, hin⟩ := List.any_eq_true.1 (List.all_eq_true.1 h r hr)
  simp only [Bool.and_eq_true, Nat.ble_eq] at hin
  exact contains_iff.2 ⟨u, hu, Nat.le_trans hin.1 hlow, Nat.le_trans hhigh hin.2⟩

theorem not_contains_of_apart {s t : CodeSet} {n : Nat} (h : s.apart t = true) (hn : s.contains n = true) :
    t.contains n = false := by
  obtain ⟨r, hr, hlow, hhigh⟩ := contains_iff.1 hn
  rw [Bool.eq_false_iff]
  intro hmeet
  obtain ⟨u, hu, hulow, huhigh⟩ := contains_iff.1 hmeet
  have hclear := List.all_eq_true.1 (List.all_eq_true.1 h r hr) u hu
  simp only [Bool.or_eq_true, Nat.blt_eq] at hclear
  omega

/-- Joining keeps every code point. The ranges have to be in order: of two that touch, the first is taken to begin
first. -/
theorem exists_mem_join {rs : List (Nat × Nat)} {n : Nat} (hsorted : rs.Pairwise fun r u => r.1 ≤ u.1)
    (h : ∃ r ∈ rs, r.1 ≤ n ∧ n ≤ r.2) : ∃ r ∈ join rs, r.1 ≤ n ∧ n ≤ r.2 := by
  fun_induction join rs with
  | case1 => exact h
  | case2 r => exact h
  | case3 a b c d rest htouch ih =>
    obtain ⟨hfirst, hothers⟩ := List.pairwise_cons.1 hsorted
    obtain ⟨-, hrest⟩ := List.pairwise_cons.1 hothers
    have hac : a ≤ c := hfirst (c, d) List.mem_cons_self
    refine ih (List.pairwise_cons.2 ⟨fun u hu => hfirst u (List.mem_cons_of_mem _ hu), hrest⟩) ?_
    obtain ⟨r, hr, hlow, hhigh⟩ := h
    rcases List.mem_cons.1 hr with rfl | hr
    · exact ⟨_, List.mem_cons_self, hlow, Nat.le_trans hhigh (Nat.le_max_left _ _)⟩
    · rcases List.mem_cons.1 hr with rfl | hr
      · exact ⟨_, List.mem_cons_self, Nat.le_trans hac hlow, Nat.le_trans hhigh (Nat.le_max_right _ _)⟩
      · exact ⟨r, List.mem_cons_of_mem _ hr, hlow, hhigh⟩
  | case4 a b c d rest hgap ih =>
    obtain ⟨r, hr, hbounds⟩ := h
    rcases List.mem_cons.1 hr with rfl | hr
    · exact ⟨_, List.mem_cons_self, hbounds⟩
    · obtain ⟨u, hu, hin⟩ := ih (List.pairwise_cons.1 hsorted).2 ⟨r, hr, hbounds⟩
      exact ⟨u, List.mem_cons_of_mem _ hu, hin⟩

theorem contains_unions {sets : List CodeSet} {s : CodeSet} {n : Nat} (hs : s ∈ sets) (hn : s.contains n = true) :
    (unions sets).contains n = true := by
  obtain ⟨r, hr, hbounds⟩ := contains_iff.1 hn
  have hsorted : ((sets.flatMap (·.ranges)).mergeSort fun a b => a.1 ≤ b.1).Pairwise
      fun a b => decide (a.1 ≤ b.1) = true := by
    refine List.pairwise_mergeSort (fun a b c hab hbc => ?_) (fun a b => ?_) _
    · simp only [decide_eq_true_eq] at hab hbc ⊢
      exact Nat.le_trans hab hbc
    · simp only [Bool.or_eq_true, decide_eq_true_eq]
      exact Nat.le_total _ _
  refine contains_iff.2 (exists_mem_join (hsorted.imp of_decide_eq_true) ⟨r, ?_, hbounds⟩)
  exact List.mem_mergeSort.2 (List.mem_flatMap.2 ⟨s, hs, hr⟩)

end CodeSet

/-- The set in a row of a table, with the text taken apart: in this form it can be evaluated. -/
theorem setOf?_of_row {table : List (List String × String)} {loose : String} {cs : List Char}
    (h : row? table loose = some (String.ofList cs)) :
    setOf? table loose = some ⟨(cs.foldl CodeSet.Reading.step ⟨none, none, []⟩).close.done.reverse⟩ := by
  rw [setOf?, h, Option.map_some, CodeSet.decode, String.toList_ofList]

end Unicode

namespace Text

open Unicode

/-! ## What the tables say -/

set_option maxRecDepth 20000 in
theorem joiner_selector_within_ignorable :
    CodeSet.within ⟨[(0x200D, 0x200D), (0xFE0F, 0xFE0F)]⟩
      ((binarySet? "defaultignorablecodepoint").getD .empty) = true := by
  have hrow : row? binaryAtoI "defaultignorablecodepoint" = some (String.ofList _) := rfl
  rw [binarySet?, setOf?_of_row hrow]
  decide +kernel

/-- The joiner of pictures, and the selector that makes a picture wide, take no cell. -/
theorem charWidth_ignorable {c : Char} (h : c.toNat = 0x200D ∨ c.toNat = 0xFE0F) : charWidth c = 0 := by
  have hset : zeroWidth.contains c.toNat = true := by
    refine CodeSet.contains_unions (List.mem_cons_of_mem _ List.mem_cons_self)
      (CodeSet.contains_of_within joiner_selector_within_ignorable ?_)
    rcases h with h | h <;> rw [h] <;> rfl
  simp only [charWidth, hset]
  rcases h with h | h <;> rw [h] <;> rfl

set_option maxRecDepth 20000 in
theorem emojiModifier_within_wide :
    emojiModifier.within wide = true ∧ wide.apart ⟨[(0, 0x2FF)]⟩ = true := by
  have hrow : row? binaryAtoI "emojimodifier" = some (String.ofList _) := rfl
  have htext : wideRanges = String.ofList _ := rfl
  rw [emojiModifier, binarySet?, setOf?_of_row hrow, wide, CodeSet.decode, htext, String.toList_ofList]
  decide +kernel

/-- A modifier, which colors the picture before it, does not take one cell by itself. -/
theorem charWidth_emojiModifier {c : Char} (h : emojiModifier.contains c.toNat = true) : charWidth c ≠ 1 := by
  have hwide := CodeSet.contains_of_within emojiModifier_within_wide.1 h
  have hhigh : ¬ c.toNat < 0x300 := by
    have hnone := CodeSet.not_contains_of_apart emojiModifier_within_wide.2 hwide
    simp [CodeSet.contains] at hnone
    omega
  simp only [charWidth, hhigh, hwide, if_false, if_true]
  split_ifs <;> decide

set_option maxRecDepth 20000 in
theorem pictographic_apart :
    pictographic.apart ⟨[(0x200D, 0x200D), (0x1100, 0x11FF), (0xA960, 0xA97C), (0xAC00, 0xD7FB),
      (0x1F1E6, 0x1F1FF)]⟩ = true ∧
    ∀ s ∈ [extendSet, spacingSet, controlSet, prependSet], pictographic.apart s = true := by
  have hpictures : row? binaryAtoI "extendedpictographic" = some (String.ofList _) := rfl
  have hextend : row? graphemeBreaks "extend" = some (String.ofList _) := rfl
  have hspacing : row? graphemeBreaks "spacingmark" = some (String.ofList _) := rfl
  have hcontrol : row? graphemeBreaks "control" = some (String.ofList _) := rfl
  have hprepend : row? graphemeBreaks "prepend" = some (String.ofList _) := rfl
  rw [pictographic, binarySet?, extendSet, spacingSet, controlSet, prependSet, breakSet, breakSet, breakSet, breakSet,
    setOf?_of_row hpictures, setOf?_of_row hextend, setOf?_of_row hspacing, setOf?_of_row hcontrol,
    setOf?_of_row hprepend]
  decide +kernel

/-- A picture has no role of its own in cutting a text. -/
theorem ofChar_picture {c : Char} (h : isPicture c = true) : BreakClass.ofChar c = .other := by
  simp only [isPicture, Bool.and_eq_true, decide_eq_true_eq] at h
  obtain ⟨⟨hhigh, -⟩, hpicture⟩ := h
  obtain ⟨hranges, hsets⟩ := pictographic_apart
  have hnone : ∀ s ∈ [extendSet, spacingSet, controlSet, prependSet], s.contains c.toNat = false :=
    fun s hs => CodeSet.not_contains_of_apart (hsets s hs) hpicture
  have hextend := hnone extendSet (by simp)
  have hspacing := hnone spacingSet (by simp)
  have hcontrol := hnone controlSet (by simp)
  have hprepend := hnone prependSet (by simp)
  have hclear := CodeSet.not_contains_of_apart hranges hpicture
  simp only [CodeSet.contains, List.any_cons, List.any_nil, Bool.or_eq_false_iff, Bool.and_eq_false_iff,
    decide_eq_false_iff_not] at hclear
  obtain ⟨hjoiner, hletters, hleading, hsyllables, hregional, -⟩ := hclear
  simp only [BreakClass.ofChar, hextend, hspacing, hcontrol, hprepend, Bool.or_eq_true, Bool.and_eq_true,
    decide_eq_true_eq, Bool.false_eq_true, if_false, ite_self]
  -- What is left are the roles that are given by ranges, ten in a row.
  iterate 10 rw [if_neg (by omega)]

theorem ofChar_ne_joiner {c : Char} (h : charWidth c ≠ 0) : BreakClass.ofChar c ≠ .joiner := by
  fun_cases BreakClass.ofChar c
  case case5 hjoiner => exact absurd (charWidth_ignorable (.inl hjoiner)) h
  all_goals nofun

/-! ## Pictures in a cluster -/

/-- A cluster without a joiner of pictures. It holds one picture at most, and a picture ends the part of the cluster
that stands in front of its base. -/
structure OnePicture (s : Cluster) : Prop where
  count : s.chars.countP isPicture ≤ 1
  last : 0 < s.chars.countP isPicture → s.last ≠ .prepend
  unjoined : s.picture ≠ .joined

theorem OnePicture.start : OnePicture {} := ⟨Nat.zero_le 1, fun h => absurd h (Nat.lt_irrefl 0), nofun⟩

/-- Where there is no joiner, pictures and what stands in front of a base join nothing but what stands in front of
one. -/
theorem last_eq_prepend_of_joins {s : Cluster} {c : Char} {k : BreakClass} (hs : s.picture ≠ .joined)
    (hk : k = .other ∨ k = .prepend) (h : s.joins c k = true) : s.last = .prepend := by
  rcases hk with rfl | rfl <;> cases hlast : s.last <;> simp_all [Cluster.joins]

theorem pictureAfter_ne_joined {s : Cluster} {c : Char} {k : BreakClass} (hk : k ≠ .joiner) :
    s.pictureAfter c k ≠ .joined := by
  unfold Cluster.pictureAfter
  split
  · nofun
  · contradiction
  · split <;> nofun

theorem OnePicture.push {s : Cluster} {c : Char} (h : OnePicture s) (hc : charWidth c ≠ 0)
    (hin : s.chars = [] ∨ s.joins c (.ofChar c) = true) : OnePicture (s.push c (.ofChar c)) := by
  have hfirst : BreakClass.ofChar c = .other ∨ BreakClass.ofChar c = .prepend → s.chars.countP isPicture = 0 := by
    intro hk
    rcases hin with hempty | hjoins
    · rw [hempty, List.countP_nil]
    · by_contra hne
      exact h.last (Nat.pos_of_ne_zero hne) (last_eq_prepend_of_joins h.unjoined hk hjoins)
  refine ⟨?_, fun hpos hlast => ?_, pictureAfter_ne_joined (ofChar_ne_joiner hc)⟩
  · show (c :: s.chars).countP isPicture ≤ 1
    rw [List.countP_cons]
    by_cases hpicture : isPicture c = true
    · rw [hfirst (.inl (ofChar_picture hpicture)), if_pos hpicture]
    · rw [if_neg hpicture]
      exact h.count
  · have hprepend : BreakClass.ofChar c = .prepend := hlast
    have hpicture : ¬ isPicture c = true := by
      intro hpicture
      rw [ofChar_picture hpicture] at hprepend
      cases hprepend
    have hnone : (c :: s.chars).countP isPicture = 0 := by
      rw [List.countP_cons, hfirst (.inr hprepend), if_neg hpicture]
    exact absurd hnone (Nat.ne_of_gt hpos)

/-- Without a joiner of pictures no cluster holds two. -/
theorem countP_isPicture_le_one {cs : List Char} (h : ∀ c ∈ cs, charWidth c ≠ 0) {s : Cluster} (hs : OnePicture s) :
    ∀ g ∈ graphemesFrom s cs, g.countP isPicture ≤ 1 := by
  induction cs generalizing s with
  | nil =>
    intro g hg
    unfold graphemesFrom at hg
    split at hg
    · cases hg
    · rw [List.mem_singleton.1 hg, List.countP_reverse]
      exact hs.count
  | cons c rest ih =>
    obtain ⟨hc, hrest⟩ := List.forall_mem_cons.1 h
    intro g hg
    simp only [graphemesFrom] at hg
    split at hg
    · rename_i hin
      simp only [Bool.or_eq_true, List.isEmpty_iff] at hin
      exact ih hrest (hs.push hc hin) g hg
    · rcases List.mem_cons.1 hg with rfl | hg
      · rw [List.countP_reverse]
        exact hs.count
      · exact ih hrest (OnePicture.start.push hc (.inl rfl)) g hg

/-! ## Cells of a cluster -/

theorem foldl_add_eq_sum {α : Type} (f : α → Nat) (xs : List α) :
    xs.foldl (fun sum x => sum + f x) 0 = (xs.map f).sum := by
  rw [List.sum_eq_foldl, List.foldl_map]

/-- The cells that a character takes behind the first of a cluster. -/
def addedWidth (d : Char) : Nat := if emojiModifier.contains d.toNat then 0 else charWidth d

theorem addedWidth_le (d : Char) : addedWidth d ≤ charWidth d := by
  unfold addedWidth
  split_ifs
  · exact Nat.zero_le _
  · exact Nat.le_refl _

theorem addedWidth_eq_one {d : Char} (h : charWidth d = 1) : addedWidth d = 1 := by
  unfold addedWidth
  split_ifs with hmodifier
  · exact absurd h (charWidth_emojiModifier hmodifier)
  · exact h

theorem sum_addedWidth_le {ds : List Char} (h : ∀ d ∈ ds, charWidth d ≤ 1) : (ds.map addedWidth).sum ≤ ds.length := by
  have hone : ∀ n ∈ ds.map addedWidth, n ≤ 1 :=
    List.forall_mem_map.2 fun d hd => Nat.le_trans (addedWidth_le d) (h d hd)
  simpa using List.sum_le_card_nsmul _ 1 hone

/-- The first character of a cluster takes one cell at most, or a selector behind it says that it takes two. -/
theorem baseWidth_le {c : Char} (hc : charWidth c ≤ 1) (next : Option Char) :
    baseWidth c next ≤ 1 ∨ next = some '\uFE0F' ∧ baseWidth c next = 2 := by
  unfold baseWidth
  split_ifs with hwide hnarrow
  · simp only [Bool.and_eq_true, decide_eq_true_eq] at hwide
    exact .inr ⟨hwide.1, rfl⟩
  · exact .inl (Nat.le_refl 1)
  · exact .inl hc

theorem baseWidth_eq_one {c : Char} {next : Option Char} (hc : charWidth c = 1) (hnext : next ≠ some '\uFE0F') :
    baseWidth c next = 1 := by
  unfold baseWidth
  rw [if_neg (by simp [hnext]), hc, ite_self]

theorem clusterWidth_le_length {g : List Char} (h : ∀ c ∈ g, charWidth c ≤ 1) : clusterWidth g ≤ g.length := by
  fun_cases clusterWidth g with
  | case1 => exact Nat.le_refl 0
  | case2 => exact Nat.le_succ 1
  | case3 c rest hline htwo =>
    have hrest : rest ≠ [] := by
      rintro rfl
      simp at htwo
    have hpos := List.length_pos_iff.2 hrest
    rw [List.length_cons]
    omega
  | case4 c rest hline hone =>
    obtain ⟨hc, hrest⟩ := List.forall_mem_cons.1 h
    show baseWidth c rest.head? + rest.foldl (fun sum d => sum + addedWidth d) 0 ≤ rest.length + 1
    rw [foldl_add_eq_sum]
    rcases baseWidth_le hc rest.head? with hbase | ⟨hselector, hbase⟩
    · have hsum := sum_addedWidth_le hrest
      omega
    · -- The selector has no cell of its own: the second cell of the picture is its.
      obtain ⟨rest', rfl⟩ := List.head?_eq_some_iff.1 hselector
      have hsum := sum_addedWidth_le (List.forall_mem_cons.1 hrest).2
      have hnone := addedWidth_le '\uFE0F'
      rw [charWidth_ignorable (.inr rfl)] at hnone
      rw [List.map_cons, List.sum_cons, List.length_cons]
      omega

theorem clusterWidth_eq_length {g : List Char} (h : ∀ c ∈ g, charWidth c = 1) (hpicture : g.countP isPicture ≤ 1)
    (hline : '\n' ∉ g) : clusterWidth g = g.length := by
  fun_cases clusterWidth g with
  | case1 => rfl
  | case2 => exact absurd (List.mem_cons_of_mem _ List.mem_cons_self) hline
  | case3 c rest _ htwo =>
    obtain ⟨hrest, hc⟩ := Bool.and_eq_true_iff.1 htwo
    obtain ⟨d, hd, hpic⟩ := List.any_eq_true.1 hrest
    have hpos : 0 < rest.countP isPicture := List.countP_pos_iff.2 ⟨d, hd, hpic⟩
    rw [List.countP_cons_of_pos hc] at hpicture
    omega
  | case4 c rest _ _ =>
    obtain ⟨hc, hrest⟩ := List.forall_mem_cons.1 h
    have hnext : rest.head? ≠ some '\uFE0F' := by
      intro hselector
      have hone := hrest _ (List.mem_of_head? hselector)
      rw [charWidth_ignorable (.inr rfl)] at hone
      cases hone
    show baseWidth c rest.head? + rest.foldl (fun sum d => sum + addedWidth d) 0 = rest.length + 1
    rw [foldl_add_eq_sum, baseWidth_eq_one hc hnext, List.map_congr_left fun d hd => addedWidth_eq_one (hrest d hd)]
    simp [Nat.add_comm]

/-! ## Cells of a text -/

theorem width_eq_sum (cs : List Char) : width cs = ((graphemes cs).map clusterWidth).sum := foldl_add_eq_sum _ _

theorem sum_length_graphemes (cs : List Char) : ((graphemes cs).map List.length).sum = cs.length := by
  rw [← List.length_flatten, flatten_graphemes]

theorem mem_of_mem_graphemes {cs g : List Char} {c : Char} (hg : g ∈ graphemes cs) (hc : c ∈ g) : c ∈ cs := by
  rw [← flatten_graphemes cs]
  exact List.mem_flatten.2 ⟨g, hg, hc⟩

/-- **Without wide characters a text takes no more cells than it has characters.** -/
theorem width_le_length {cs : List Char} (h : ∀ c ∈ cs, charWidth c ≤ 1) : width cs ≤ cs.length := by
  rw [width_eq_sum, ← sum_length_graphemes]
  exact List.sum_le_sum fun g hg => clusterWidth_le_length fun c hc => h c (mem_of_mem_graphemes hg hc)

/-- **A line of characters of one cell takes as many cells as it has characters.** -/
theorem width_eq_length {cs : List Char} (h : ∀ c ∈ cs, charWidth c = 1) (hline : '\n' ∉ cs) :
    width cs = cs.length := by
  have hpicture := countP_isPicture_le_one (fun c hc => by rw [h c hc]; exact Nat.one_ne_zero) OnePicture.start
  rw [width_eq_sum, ← sum_length_graphemes]
  refine congrArg List.sum (List.map_congr_left fun g hg => clusterWidth_eq_length ?_ (hpicture g hg) ?_)
  · exact fun c hc => h c (mem_of_mem_graphemes hg hc)
  · exact fun hmem => hline (mem_of_mem_graphemes hg hmem)

end Text

end LogTable
