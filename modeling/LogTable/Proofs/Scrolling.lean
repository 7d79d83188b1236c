import LogTable.App

/-!
# Positions in bounds

A view is `InBounds` if it starts no further than `maxTop`. What the user does keeps it there
(`InBounds.moveView`), and so does a table event, unless rows went away of which only growth is told
(`inBounds_notice_reset`, `InBounds.notice_inserted`). In bounds, the rows on the screen start at `top`.
-/
namespace LogTable

namespace View

def InBounds (v : View) : Prop := v.top ≤ v.maxTop

theorem maxTop_le_rowCount (v : View) : v.maxTop ≤ v.rowCount := Nat.sub_le _ _

/-! ## What the user does -/

theorem inBounds_scrollDown (v : View) (n : Nat) : (v.scrollDown n).InBounds := Nat.min_le_right _ _

theorem InBounds.scrollUp {v : View} (h : v.InBounds) (n : Nat) : (v.scrollUp n).InBounds :=
  Nat.le_trans (Nat.sub_le _ _) h

theorem inBounds_toStart (v : View) : v.toStart.InBounds := Nat.zero_le _

theorem inBounds_toEnd (v : View) : v.toEnd.InBounds := Nat.le_refl _

theorem inBounds_settle (v : View) : v.settle.InBounds := by
  unfold settle
  split
  · exact v.inBounds_toEnd
  · exact Nat.min_le_right _ _

theorem InBounds.toggleAuto {v : View} (h : v.InBounds) : v.toggleAuto.InBounds := by
  unfold View.toggleAuto
  simp only
  split
  · exact inBounds_toEnd _
  · exact h

theorem InBounds.resize {v : View} (h : v.InBounds) (width height : Nat) : (v.resize width height).InBounds := by
  unfold View.resize
  split
  · exact h
  · exact inBounds_settle _

theorem rowCount_settle (v : View) : v.settle.rowCount = v.rowCount := by
  unfold settle
  split <;> rfl

theorem InBounds.moveView {v : View} (h : v.InBounds) (a : Action) : (App.moveView v a).InBounds := by
  cases a with
  | scroll direction n =>
    cases direction with
    | down => exact v.inBounds_scrollDown n
    | up => exact h.scrollUp n
  | pageDown => exact v.inBounds_scrollDown v.page
  | pageUp => exact h.scrollUp v.page
  | toStart => exact v.inBounds_toStart
  | toEnd => exact v.inBounds_toEnd
  | toggleAuto => exact h.toggleAuto
  | resize width height => exact h.resize width height
  | reload => exact h
  | quit => exact h

theorem rowCount_moveView (v : View) (a : Action) : (App.moveView v a).rowCount = v.rowCount := by
  cases a with
  | scroll direction n => cases direction <;> rfl
  | toggleAuto =>
    show v.toggleAuto.rowCount = v.rowCount
    unfold toggleAuto
    simp only
    split <;> rfl
  | resize width height =>
    show (v.resize width height).rowCount = v.rowCount
    unfold resize
    split
    · rfl
    · exact rowCount_settle _
  | pageDown | pageUp | toStart | toEnd | reload | quit => rfl

/-! ## What the table tells -/

theorem rowCount_notice (v : View) (e : TableEvent) (rowCount : Nat) : (v.notice e rowCount).rowCount = rowCount := by
  cases e with
  | reset => exact rowCount_settle _
  | inserted start stop =>
    unfold notice
    simp only
    split <;> rfl

theorem inBounds_notice_reset (v : View) (rowCount : Nat) : (v.notice .reset rowCount).InBounds := inBounds_settle _

/-- More rows move the bound outwards. -/
theorem InBounds.notice_inserted {v : View} {rowCount : Nat} (h : v.InBounds) (hc : v.rowCount ≤ rowCount)
    (start stop : Nat) : (v.notice (.inserted start stop) rowCount).InBounds := by
  unfold notice
  simp only
  split
  · exact inBounds_toEnd _
  · exact Nat.le_trans h (Nat.sub_le_sub_right hc v.page)

/-- A view that follows is at the end after any event. -/
theorem top_notice_of_auto {v : View} (h : v.auto = true) (e : TableEvent) (rowCount : Nat) :
    (v.notice e rowCount).top = (v.notice e rowCount).maxTop := by
  cases e with
  | reset =>
    unfold notice settle
    simp only [h, if_true]
    rfl
  | inserted start stop =>
    unfold notice
    simp only [h, if_true]
    rfl

/-! ## The rows on the screen -/

theorem InBounds.start_eq {v : View} (h : v.InBounds) : v.start = v.top := by
  have hc : v.top ≤ v.rowCount := Nat.le_trans h v.maxTop_le_rowCount
  unfold start stop
  omega

/-- At the end the last row is on the screen. -/
theorem stop_of_top_eq {v : View} (h : v.top = v.maxTop) : v.stop = v.rowCount := by
  unfold stop
  rw [h]
  unfold maxTop
  omega

end View

end LogTable
