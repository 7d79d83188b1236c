import Mathlib.Algebra.Order.Floor.Div
import Mathlib.Logic.Function.Iterate
import LogTable.Proofs.Scrolling

/-!
# Windows and pages

A view in bounds shows a page of rows from `top` on, or all rows if they are fewer than a page
(`InBounds.stop_eq`). From this its numbers stay far below `lastIndex`, and the status line counts what is shown.

Scrolling stops at the ends and nowhere else, so to scroll twice is to scroll once by the sum, as far as there are row
numbers (`scrollDown_scrollDown`, `scrollUp_scrollUp`).

The next page begins no later than this one ends (`start_pageDown_le_stop`), and the page before ends no earlier than
this one begins (`InBounds.start_le_stop_pageUp`). Pages that touch leave out no row between the first and the last
(`exists_shows_of_touching`, by induction on the number of pages). How far they go is a sum (`iterate_pageDown`,
`iterate_pageUp`): as many as it takes to hold all rows lead from one end to the other (`pages_from_start`,
`pages_from_end`).

Results: `View.window_exact_and_pages_complete`.
-/
namespace LogTable

namespace View

/-- The row is on the screen. -/
def Shows (v : View) (row : Nat) : Prop := v.start ≤ row ∧ row < v.stop

theorem one_le_page (v : View) : 1 ≤ v.page := Nat.le_max_right _ _

theorem page_le_height (v : View) : v.page ≤ v.height + 1 := by
  unfold page
  omega

/-! ## The window -/

/-- As many rows as fit are on the screen, or all. -/
theorem InBounds.stop_eq {v : View} (h : v.InBounds) : v.stop = v.top + min v.page v.rowCount := by
  have hmax : v.top ≤ v.rowCount - v.page := h
  unfold stop
  omega

theorem InBounds.top_add_page_le {v : View} (h : v.InBounds) : v.top + v.page ≤ max v.rowCount v.page := by
  have hmax : v.top ≤ v.rowCount - v.page := h
  omega

/-- The rows are counted from one in the status line, and from the first to the last on the screen. -/
theorem position_status {v : View} (w : Wording) (hrows : 0 < v.rowCount) :
    (v.status w).position = s!"{v.start + 1}-{v.stop}/{v.rowCount}" := by
  unfold Status.position
  exact if_neg (Nat.ne_of_gt hrows)

/-! ## Scrolling -/

theorem scrollDown_scrollDown {v : View} (hrows : v.rowCount ≤ lastIndex) (x y : Nat) :
    (v.scrollDown x).scrollDown y = v.scrollDown (addUpTo x y) := by
  have hmax : v.maxTop ≤ lastIndex := Nat.le_trans v.maxTop_le_rowCount hrows
  have htop : min (addUpTo (min (addUpTo v.top x) v.maxTop) y) v.maxTop =
      min (addUpTo v.top (addUpTo x y)) v.maxTop := by
    unfold addUpTo
    omega
  show { v with top := min (addUpTo (min (addUpTo v.top x) v.maxTop) y) v.maxTop } = v.scrollDown (addUpTo x y)
  rw [htop]
  rfl

theorem scrollUp_scrollUp {v : View} (htop : v.top ≤ lastIndex) (x y : Nat) :
    (v.scrollUp x).scrollUp y = v.scrollUp (addUpTo x y) := by
  have hsum : v.top - x - y = v.top - addUpTo x y := by
    unfold addUpTo
    omega
  show { v with top := v.top - x - y } = v.scrollUp (addUpTo x y)
  rw [hsum]
  rfl

/-! ## One page -/

theorem top_pageDown (v : View) : v.pageDown.top = min (addUpTo v.top v.page) v.maxTop := rfl

/-- Paging down leaves no row out. -/
theorem start_pageDown_le_stop (v : View) : v.pageDown.start ≤ v.stop := by
  have htop := v.top_pageDown
  have hmax := v.maxTop_le_rowCount
  have hstart : v.pageDown.start ≤ v.pageDown.top := Nat.min_le_left _ _
  unfold addUpTo at htop
  unfold stop
  omega

/-- Paging up leaves no row out. -/
theorem InBounds.start_le_stop_pageUp {v : View} (h : v.InBounds) : v.start ≤ v.pageUp.stop := by
  have hmax := v.maxTop_le_rowCount
  have hin : v.top ≤ v.maxTop := h
  have hstart := h.start_eq
  show v.start ≤ min (v.top - v.page + v.page) v.rowCount
  omega

/-! ## Page after page -/

theorem iterate_pageDown {v : View} (h : v.InBounds) (hrows : v.rowCount ≤ lastIndex) (k : Nat) :
    pageDown^[k] v = { v with top := min (v.top + k * v.page) v.maxTop } := by
  have hmax : v.maxTop ≤ lastIndex := Nat.le_trans v.maxTop_le_rowCount hrows
  have hin : v.top ≤ v.maxTop := h
  induction k with
  | zero =>
    have htop : min (v.top + 0 * v.page) v.maxTop = v.top := by omega
    rw [htop]
    rfl
  | succ k ih =>
    have htop : min (addUpTo (min (v.top + k * v.page) v.maxTop) v.page) v.maxTop =
        min (v.top + (k + 1) * v.page) v.maxTop := by
      rw [Nat.succ_mul]
      unfold addUpTo
      omega
    rw [Function.iterate_succ_apply', ih, ← htop]
    rfl

theorem iterate_pageUp (v : View) (k : Nat) : pageUp^[k] v = { v with top := v.top - k * v.page } := by
  induction k with
  | zero => simp
  | succ k ih =>
    have htop : v.top - k * v.page - v.page = v.top - (k + 1) * v.page := by
      rw [Nat.succ_mul]
      omega
    rw [Function.iterate_succ_apply', ih, ← htop]
    rfl

/-- If every page begins where the one before it ends, or above, each row from the first to the last is on one of the
pages. The induction is on the number of pages: a row that the last but one does not reach is on the last. -/
theorem exists_shows_of_touching (pages : Nat → View) {row k : Nat}
    (hnext : ∀ j < k, (pages (j + 1)).start ≤ (pages j).stop) (hstart : (pages 0).start ≤ row)
    (hstop : row < (pages k).stop) : ∃ j ≤ k, (pages j).Shows row := by
  induction k with
  | zero => exact ⟨0, Nat.le_refl 0, hstart, hstop⟩
  | succ k ih =>
    by_cases hbefore : row < (pages k).stop
    · obtain ⟨j, hj, hshows⟩ := ih (fun j hj => hnext j (Nat.lt_succ_of_lt hj)) hbefore
      exact ⟨j, Nat.le_succ_of_le hj, hshows⟩
    · have htouch := hnext k (Nat.lt_succ_self k)
      exact ⟨k + 1, Nat.le_refl _, Nat.le_trans htouch (Nat.le_of_not_lt hbefore), hstop⟩

theorem exists_shows_pageDown {v : View} {row k : Nat} (hstart : v.start ≤ row)
    (hstop : row < (pageDown^[k] v).stop) : ∃ j ≤ k, (pageDown^[j] v).Shows row := by
  refine exists_shows_of_touching (fun j => pageDown^[j] v) (fun j _ => ?_) hstart hstop
  rw [Function.iterate_succ_apply']
  exact start_pageDown_le_stop _

theorem InBounds.iterate_pageUp {v : View} (h : v.InBounds) (k : Nat) : (pageUp^[k] v).InBounds := by
  induction k with
  | zero => exact h
  | succ k ih =>
    rw [Function.iterate_succ_apply']
    exact ih.scrollUp _

/-- Upwards the pages are gone through from the last to the first. -/
theorem InBounds.exists_shows_pageUp {v : View} (h : v.InBounds) {row k : Nat} (hstop : row < v.stop)
    (hstart : (pageUp^[k] v).start ≤ row) : ∃ j ≤ k, (pageUp^[j] v).Shows row := by
  have htouch : ∀ j < k, (pageUp^[k - (j + 1)] v).start ≤ (pageUp^[k - j] v).stop := by
    intro j hj
    have hafter : k - j = (k - (j + 1)) + 1 := by omega
    rw [hafter, Function.iterate_succ_apply']
    exact (h.iterate_pageUp _).start_le_stop_pageUp
  have hlast : row < (pageUp^[k - k] v).stop := by rwa [Nat.sub_self]
  obtain ⟨j, -, hshows⟩ := exists_shows_of_touching (fun j => pageUp^[k - j] v) htouch hstart hlast
  exact ⟨k - j, Nat.sub_le k j, hshows⟩

/-! ## From one end to the other -/

/-- At the end the last row is the last on the screen. -/
theorem shows_last {v : View} (htop : v.top = v.maxTop) (hpos : 0 < v.rowCount) : v.Shows (v.rowCount - 1) := by
  have hin : v.InBounds := Nat.le_of_eq htop
  have hstop := stop_of_top_eq htop
  have hstart := hin.start_eq
  have hmax : v.maxTop = v.rowCount - v.page := rfl
  have hpage := v.one_le_page
  unfold Shows
  omega

/-- As many pages as hold all rows lead from the first row to the last, and show every row. -/
theorem pages_from_start {v : View} (hrows : v.rowCount ≤ lastIndex) (hpos : 0 < v.rowCount) {k : Nat}
    (hk : v.rowCount ≤ v.page * k) :
    (∀ row < v.rowCount, ∃ j ≤ k, (pageDown^[j] v.toStart).Shows row) ∧
      (pageDown^[k] v.toStart).Shows (v.rowCount - 1) := by
  have hafter := iterate_pageDown v.inBounds_toStart hrows k
  have hcount : (pageDown^[k] v.toStart).rowCount = v.rowCount := by rw [hafter]; rfl
  have htop : (pageDown^[k] v.toStart).top = (pageDown^[k] v.toStart).maxTop := by
    have hmax := v.maxTop_le_rowCount
    rw [Nat.mul_comm] at hk
    rw [hafter]
    show min (0 + k * v.page) v.maxTop = v.maxTop
    omega
  refine ⟨fun row hrow => exists_shows_pageDown ?_ ?_, ?_⟩
  · exact Nat.le_trans (Nat.min_le_left _ _) (Nat.zero_le row)
  · rw [stop_of_top_eq htop, hcount]
    exact hrow
  · rw [← hcount]
    exact shows_last htop (hcount ▸ hpos)

/-- And back from the last row to the first. -/
theorem pages_from_end {v : View} (hpos : 0 < v.rowCount) {k : Nat} (hk : v.rowCount ≤ v.page * k) :
    (∀ row < v.rowCount, ∃ j ≤ k, (pageUp^[j] v.toEnd).Shows row) ∧ (pageUp^[k] v.toEnd).Shows 0 := by
  have hin := v.inBounds_toEnd.iterate_pageUp k
  have hafter := iterate_pageUp v.toEnd k
  have hcount : (pageUp^[k] v.toEnd).rowCount = v.rowCount := by rw [hafter]; rfl
  have htop : (pageUp^[k] v.toEnd).top = 0 := by
    have hmax := v.maxTop_le_rowCount
    rw [Nat.mul_comm] at hk
    rw [hafter]
    show v.maxTop - k * v.page = 0
    omega
  have hstart : (pageUp^[k] v.toEnd).start = 0 := hin.start_eq.trans htop
  have hstop := hin.stop_eq
  rw [htop, hcount] at hstop
  have hpage := (pageUp^[k] v.toEnd).one_le_page
  refine ⟨fun row hrow => v.inBounds_toEnd.exists_shows_pageUp ?_ ?_, ?_, ?_⟩
  · have hlast : v.toEnd.stop = v.toEnd.rowCount := stop_of_top_eq rfl
    rw [hlast]
    exact hrow
  · rw [hstart]
    exact Nat.zero_le row
  · exact Nat.le_of_eq hstart
  · omega

/-- **The window is exact and paging is complete.** Take a view in bounds, of any number of rows up to the last row
number and of any height that a terminal has. It shows rows from `top` on, a page of them or all, and no number that
this takes goes beyond the last. The status line counts the rows that are shown. Scrolling twice is scrolling once by
the sum. The next page begins no later than this one ends. Paging from the start, once for every page that it takes to
hold all rows or more often, shows every row and leads to the last one, and paging from the end leads back to the
first. -/
theorem window_exact_and_pages_complete {v : View} (hin : v.InBounds) (hrows : v.rowCount ≤ lastIndex)
    (hheight : v.height < 0x10000) :
    v.top + v.page ≤ lastIndex ∧ v.start = v.top ∧ v.stop = v.top + min v.page v.rowCount ∧
    (∀ w, 0 < v.rowCount → ∃ a b, (v.status w).position = s!"{a}-{b}/{v.rowCount}" ∧
      1 ≤ a ∧ a ≤ b ∧ b ≤ v.rowCount ∧ b - a + 1 = v.stop - v.start) ∧
    (∀ x y, (v.scrollDown x).scrollDown y = v.scrollDown (addUpTo x y) ∧
      (v.scrollUp x).scrollUp y = v.scrollUp (addUpTo x y)) ∧
    v.pageDown.start ≤ v.stop ∧
    (0 < v.rowCount → ∀ k, v.rowCount ⌈/⌉ v.page ≤ k →
      ((∀ row < v.rowCount, ∃ j ≤ k, (pageDown^[j] v.toStart).Shows row) ∧
        (pageDown^[k] v.toStart).Shows (v.rowCount - 1)) ∧
      (∀ row < v.rowCount, ∃ j ≤ k, (pageUp^[j] v.toEnd).Shows row) ∧ (pageUp^[k] v.toEnd).Shows 0) := by
  have hpage := v.one_le_page
  have hstart := hin.start_eq
  have hstop := hin.stop_eq
  have htop : v.top ≤ lastIndex := Nat.le_trans hin (Nat.le_trans v.maxTop_le_rowCount hrows)
  refine ⟨?_, hstart, hstop, fun w hpos => ?_, fun x y => ⟨scrollDown_scrollDown hrows x y, scrollUp_scrollUp htop x y⟩,
    v.start_pageDown_le_stop, fun hpos k hk => ?_⟩
  · have hsum := hin.top_add_page_le
    have hbound := v.page_le_height
    have hlast : 0x10000 ≤ lastIndex := by decide
    omega
  · have hcount : v.stop ≤ v.rowCount := Nat.min_le_right _ _
    refine ⟨v.start + 1, v.stop, position_status w hpos, ?_, ?_, hcount, ?_⟩ <;> omega
  · have hall : v.rowCount ≤ v.page * k := (ceilDiv_le_iff_le_mul hpage).1 hk
    exact ⟨pages_from_start hrows hpos hall, pages_from_end hpos hall⟩

/-- As many rows as there can be, shown two by two, and the last two of them. -/
def fullTable : View where
  path := "app.log"
  width := 80
  height := 4
  rowCount := lastIndex
  top := lastIndex - 2

theorem window_exact_and_pages_complete_fullTable :
    fullTable.InBounds ∧ fullTable.rowCount ≤ lastIndex ∧ fullTable.height < 0x10000 ∧
      fullTable.top + fullTable.page ≤ lastIndex ∧ fullTable.stop = fullTable.top + 2 ∧
      (∀ row < lastIndex, ∃ j ≤ 2 ^ 63, (pageDown^[j] fullTable.toStart).Shows row) ∧
      ∀ row < lastIndex, ∃ j ≤ 2 ^ 63, (pageUp^[j] fullTable.toEnd).Shows row := by
  have hin : fullTable.InBounds := by
    show lastIndex - 2 ≤ lastIndex - 2
    exact Nat.le_refl _
  have hheight : fullTable.height < 0x10000 := by decide
  have hk : fullTable.rowCount ⌈/⌉ fullTable.page ≤ 2 ^ 63 := by
    rw [Nat.ceilDiv_eq_add_pred_div]
    decide
  obtain ⟨hsum, -, hstop, -, -, -, hpages⟩ := window_exact_and_pages_complete hin (Nat.le_refl lastIndex) hheight
  obtain ⟨⟨hdown, -⟩, hup, -⟩ := hpages (by decide) (2 ^ 63) hk
  exact ⟨hin, Nat.le_refl _, hheight, hsum, hstop, hdown, hup⟩

end View

end LogTable
