import Mathlib.Data.List.TakeWhile
import LogTable.Source.Split

/-!
# Lines at newline boundaries

Bytes that end with a newline, or are none, can be split into lines apart from what comes behind them:
`linesOf_append`. This is what lets a follower go on behind the last newline it has read. `completePart` is
the longest such initial part (`completePart_append_heldPart`, `newline_not_mem_heldPart`, and the other way
round `completePart_append`), and it has as many lines as there are newlines (`length_linesOf`).
-/
namespace LogTable

/-! ## Completeness -/

theorem isComplete_cons_cons (b c : UInt8) (rest : List UInt8) :
    isComplete (b :: c :: rest) = isComplete (c :: rest) := by
  unfold isComplete
  rw [List.getLast?_cons_cons]

theorem isComplete_concat_newline (bytes : List UInt8) : isComplete (bytes ++ [newline]) = true := by
  unfold isComplete
  rw [List.getLast?_concat]
  rfl

/-- Behind complete bytes it is the others that decide. -/
theorem isComplete_append_eq {first : List UInt8} (rest : List UInt8) (h : isComplete first = true) :
    isComplete (first ++ rest) = isComplete rest := by
  unfold isComplete at *
  rw [List.getLast?_append]
  cases hrest : rest.getLast? with
  | none => simpa using h
  | some b => rfl

theorem isComplete_append {first rest : List UInt8} (h₁ : isComplete first = true)
    (h₂ : isComplete rest = true) : isComplete (first ++ rest) = true :=
  (isComplete_append_eq rest h₁).trans h₂

/-! ## Cutting -/

theorem cutLines_cons (b : UInt8) (bytes : List UInt8) : cutLines (b :: bytes) = consByte b (cutLines bytes) :=
  rfl

theorem cutLines_ne_nil (b : UInt8) (bytes : List UInt8) : cutLines (b :: bytes) ≠ [] := by
  rw [cutLines_cons]
  unfold consByte
  split
  · simp
  · split <;> simp

/-- The number of lines: one for each newline, and one more if something stands behind the last. -/
theorem length_cutLines (bytes : List UInt8) :
    (cutLines bytes).length = bytes.count newline + if isComplete bytes then 0 else 1 := by
  induction bytes with
  | nil => rfl
  | cons b rest ih =>
    cases rest with
    | nil =>
      by_cases hb : b = newline
      · subst hb; rfl
      · have hc : isComplete [b] = false := by simpa [isComplete] using hb
        simp [cutLines, consByte, hb, hc]
    | cons c rest =>
      rw [isComplete_cons_cons, List.count_cons, cutLines_cons]
      obtain ⟨line, lines, h⟩ := List.exists_cons_of_ne_nil (cutLines_ne_nil c rest)
      rw [h] at ih ⊢
      by_cases hb : b = newline
      · subst hb
        simp only [consByte, if_true, List.length_cons, beq_self_eq_true] at ih ⊢
        omega
      · simp only [consByte, hb, if_false, List.length_cons, beq_iff_eq] at ih ⊢
        omega

/-- Behind a newline a new line starts, so complete bytes are cut apart from the rest. -/
theorem cutLines_append {first : List UInt8} (rest : List UInt8) (h : isComplete first = true) :
    cutLines (first ++ rest) = cutLines first ++ cutLines rest := by
  induction first with
  | nil => rfl
  | cons b first ih =>
    cases first with
    | nil =>
      have hb : b = newline := by simpa [isComplete] using h
      subst hb
      rfl
    | cons c first =>
      rw [isComplete_cons_cons] at h
      obtain ⟨line, lines, hl⟩ := List.exists_cons_of_ne_nil (cutLines_ne_nil c first)
      rw [List.cons_append, cutLines_cons, ih h, cutLines_cons b, hl]
      unfold consByte
      split <;> rfl

example : cutLines ([97, 10, 10] ++ [98]) = [[97], []] ++ [[98]] := by decide

theorem linesOf_append {first : List UInt8} (rest : List UInt8) (h : isComplete first = true) :
    (linesOf (first ++ rest)).1 = (linesOf first).1 ++ (linesOf rest).1 := by
  simp only [linesOf]
  rw [cutLines_append rest h, List.map_append]

theorem length_linesOf (bytes : List UInt8) :
    (linesOf bytes).1.length = bytes.count newline + if isComplete bytes then 0 else 1 := by
  simp only [linesOf, List.length_map]
  exact length_cutLines bytes

/-! ## The complete part -/

/-- What stands behind the last newline. -/
def heldPart (bytes : List UInt8) : List UInt8 := (bytes.reverse.takeWhile (· ≠ newline)).reverse

theorem completePart_append_heldPart (bytes : List UInt8) : completePart bytes ++ heldPart bytes = bytes := by
  unfold completePart heldPart
  rw [← List.reverse_append, List.takeWhile_append_dropWhile, List.reverse_reverse]

theorem newline_not_mem_heldPart (bytes : List UInt8) : newline ∉ heldPart bytes := by
  unfold heldPart
  intro h
  rw [List.mem_reverse] at h
  have := List.mem_takeWhile_imp h
  simp at this

theorem isComplete_completePart (bytes : List UInt8) : isComplete (completePart bytes) = true := by
  unfold completePart
  cases h : bytes.reverse.dropWhile (· ≠ newline) with
  | nil => rfl
  | cons b rest =>
    have hb : b = newline := by
      have := List.head?_dropWhile_not (· ≠ newline) bytes.reverse
      rw [h] at this
      simpa using this
    rw [List.reverse_cons, hb]
    exact isComplete_concat_newline _

theorem newline_mem_of_complete {bytes : List UInt8} (h : isComplete bytes = true) (hne : bytes ≠ []) :
    newline ∈ bytes := by
  have hl := List.getLast?_eq_some_getLast hne
  have he : bytes.getLast hne = newline := by simpa [isComplete, hl] using h
  exact he ▸ List.getLast_mem hne

/-- The complete part goes no further than to the last newline. -/
theorem completePart_append {first rest : List UInt8} (h : isComplete first = true) (hrest : newline ∉ rest) :
    completePart (first ++ rest) = first := by
  have hskip : ∀ b ∈ rest.reverse, decide (b ≠ newline) = true := by
    intro b hb
    have hne : b ≠ newline := fun e => hrest (e ▸ List.mem_reverse.1 hb)
    simpa using hne
  have hstop : first.reverse.dropWhile (· ≠ newline) = first.reverse := by
    cases hr : first.reverse with
    | nil => rfl
    | cons b before =>
      have hlast : first.getLast? = some b := by rw [List.getLast?_eq_head?_reverse, hr, List.head?_cons]
      have hb : b = newline := by simpa [isComplete, hlast] using h
      simp [hb]
  unfold completePart
  rw [List.reverse_append, List.dropWhile_append_of_pos hskip, hstop, List.reverse_reverse]

example : completePart ([97, 10] ++ [98]) = [97, 10] := by decide

/-- Bytes without a newline have no complete part. -/
theorem completePart_isEmpty_iff (bytes : List UInt8) :
    (completePart bytes).isEmpty = true ↔ newline ∉ bytes := by
  rw [List.isEmpty_iff]
  constructor
  · intro h
    have := newline_not_mem_heldPart bytes
    rwa [← List.nil_append (heldPart bytes), ← h, completePart_append_heldPart] at this
  · intro h
    by_contra hne
    have := newline_mem_of_complete (isComplete_completePart bytes) hne
    exact h (completePart_append_heldPart bytes ▸ List.mem_append_left _ this)

theorem linesOf_completePart_ne_nil {bytes : List UInt8} (h : (completePart bytes).isEmpty = false) :
    (linesOf (completePart bytes)).1 ≠ [] := by
  have hne : completePart bytes ≠ [] := by simpa using h
  have hpos := List.count_pos_iff.2 (newline_mem_of_complete (isComplete_completePart bytes) hne)
  have hlen := length_linesOf (completePart bytes)
  intro he
  rw [he, List.length_nil] at hlen
  omega

end LogTable
