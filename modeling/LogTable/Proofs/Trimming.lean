import Mathlib.Data.List.TakeWhile
import LogTable.Unicode.Blank

/-!
# What trimming leaves

A text is blanks, a part that neither begins nor ends with one, and blanks again. Trimming leaves this part: every
text is what trimming leaves of it between blanks (`exists_trimChars`), and there is no other way to see it so
(`trimChars_eq`).

The end of a text is the beginning of its reverse, which is how both the definition and the lemmas treat it.

Results: `exists_trimChars`, `trimChars_eq`.
-/
namespace LogTable.Unicode

/-- The text has blanks only. -/
def Blanks (cs : List Char) : Prop := ∀ c ∈ cs, isBlank c = true

/-- The text does not begin with a blank. -/
def NoBlankFirst (cs : List Char) : Prop := ∀ c, cs.head? = some c → isBlank c = false

/-- The text neither begins nor ends with a blank. -/
structure Trimmed (cs : List Char) : Prop where
  first : NoBlankFirst cs
  last : NoBlankFirst cs.reverse

theorem blanks_nil : Blanks [] := List.forall_mem_nil _

theorem blanks_append {xs ys : List Char} : Blanks (xs ++ ys) ↔ Blanks xs ∧ Blanks ys := List.forall_mem_append

theorem Blanks.reverse {cs : List Char} (h : Blanks cs) : Blanks cs.reverse := fun c hc => h c (List.mem_reverse.1 hc)

theorem NoBlankFirst.append {xs : List Char} (h : NoBlankFirst xs) (hne : xs ≠ []) (ys : List Char) :
    NoBlankFirst (xs ++ ys) := by
  obtain ⟨c, xs, rfl⟩ := List.exists_cons_of_ne_nil hne
  exact h

theorem NoBlankFirst.of_append {xs ys : List Char} (h : NoBlankFirst (xs ++ ys)) : NoBlankFirst xs := by
  intro c hc
  refine h c ?_
  rw [List.head?_append, hc]
  rfl

/-- What is trimmed may be followed by what does not end with a blank. -/
theorem Trimmed.append {xs ys : List Char} (hx : Trimmed xs) (hne : xs ≠ []) (hy : NoBlankFirst ys.reverse) :
    Trimmed (xs ++ ys) := by
  refine ⟨hx.first.append hne ys, ?_⟩
  rw [List.reverse_append]
  by_cases hys : ys = []
  · rw [hys]
    exact hx.last
  · exact hy.append (mt List.reverse_eq_nil_iff.1 hys) _

/-! ## One end -/

theorem trimStart_append {front : List Char} (h : Blanks front) (cs : List Char) :
    trimStart (front ++ cs) = trimStart cs := List.dropWhile_append_of_pos h

theorem trimStart_of_noBlankFirst {cs : List Char} (h : NoBlankFirst cs) : trimStart cs = cs := by
  cases cs with
  | nil => rfl
  | cons c cs => exact List.dropWhile_cons_of_neg (by simp [h c rfl])

theorem exists_trimStart (cs : List Char) :
    ∃ front, cs = front ++ trimStart cs ∧ Blanks front ∧ NoBlankFirst (trimStart cs) := by
  refine ⟨cs.takeWhile isBlank, List.takeWhile_append_dropWhile.symm, fun c => List.mem_takeWhile_imp, fun c hc => ?_⟩
  have h := List.head?_dropWhile_not isBlank cs
  rw [show cs.dropWhile isBlank = trimStart cs from rfl, hc] at h
  simpa using h

theorem trimEnd_eq (cs : List Char) : trimEnd cs = (trimStart cs.reverse).reverse := rfl

theorem trimEnd_append {back : List Char} (h : Blanks back) (cs : List Char) : trimEnd (cs ++ back) = trimEnd cs := by
  rw [trimEnd_eq, List.reverse_append, trimStart_append h.reverse, trimEnd_eq]

theorem exists_trimEnd (cs : List Char) :
    ∃ back, cs = trimEnd cs ++ back ∧ Blanks back ∧ NoBlankFirst (trimEnd cs).reverse := by
  obtain ⟨back, hrev, hback, hlast⟩ := exists_trimStart cs.reverse
  refine ⟨back.reverse, ?_, hback.reverse, ?_⟩
  · rw [trimEnd_eq, ← List.reverse_append, ← hrev, List.reverse_reverse]
  · rwa [trimEnd_eq, List.reverse_reverse]

/-! ## Both ends -/

/-- What stands between blanks, and neither begins nor ends with one, is what trimming leaves. -/
theorem trimChars_eq {front part back : List Char} (hfront : Blanks front) (hpart : Trimmed part)
    (hback : Blanks back) : trimChars (front ++ part ++ back) = part := by
  unfold trimChars
  by_cases hne : part = []
  · have hblanks : Blanks (front ++ back) := blanks_append.2 ⟨hfront, hback⟩
    have hnil := trimStart_append hblanks []
    rw [List.append_nil] at hnil
    rw [hne, List.append_nil, hnil]
    rfl
  · rw [List.append_assoc, trimStart_append hfront, trimStart_of_noBlankFirst (hpart.first.append hne back),
      trimEnd_append hback, trimEnd_eq, trimStart_of_noBlankFirst hpart.last, List.reverse_reverse]

theorem trimChars_of_trimmed {cs : List Char} (h : Trimmed cs) : trimChars cs = cs := by
  have := trimChars_eq blanks_nil h blanks_nil
  rwa [List.append_nil] at this

/-- A text is what trimming leaves of it, between blanks. -/
theorem exists_trimChars (cs : List Char) :
    ∃ front back, cs = front ++ trimChars cs ++ back ∧ Blanks front ∧ Blanks back ∧ Trimmed (trimChars cs) := by
  obtain ⟨front, hcs, hfront, hfirst⟩ := exists_trimStart cs
  obtain ⟨back, hmid, hback, hlast⟩ := exists_trimEnd (trimStart cs)
  refine ⟨front, back, ?_, hfront, hback, ?_, hlast⟩
  · rw [List.append_assoc, trimChars, ← hmid, ← hcs]
  · rw [hmid] at hfirst
    exact hfirst.of_append

/-- Blanks around a text make no difference. -/
theorem trimChars_append {front back : List Char} (hfront : Blanks front) (hback : Blanks back) (cs : List Char) :
    trimChars (front ++ cs ++ back) = trimChars cs := by
  obtain ⟨front', back', hcs, hfront', hback', htrimmed⟩ := exists_trimChars cs
  have hall : front ++ cs ++ back = front ++ front' ++ trimChars cs ++ (back' ++ back) := by
    rw [List.append_assoc front front', ← List.append_assoc _ back', List.append_assoc front _ back', ← hcs]
  rw [hall]
  exact trimChars_eq (blanks_append.2 ⟨hfront, hfront'⟩) htrimmed (blanks_append.2 ⟨hback', hback⟩)

theorem blanks_of_trimChars_eq_nil {cs : List Char} (h : trimChars cs = []) : Blanks cs := by
  obtain ⟨front, back, hcs, hfront, hback, -⟩ := exists_trimChars cs
  rw [hcs, h, List.append_nil]
  exact blanks_append.2 ⟨hfront, hback⟩

/-- No blanks stand at the end of what is trimmed. -/
theorem Trimmed.eq_nil_of_blanks {xs ys : List Char} (h : Trimmed (xs ++ ys)) (hys : Blanks ys) : ys = [] := by
  by_contra hne
  have hlast := h.last
  rw [List.reverse_append] at hlast
  obtain ⟨c, more, hrev⟩ := List.exists_cons_of_ne_nil (mt List.reverse_eq_nil_iff.1 hne)
  have hc : isBlank c = true := hys.reverse c (hrev ▸ List.mem_cons_self)
  rw [hlast.of_append c (by rw [hrev]; rfl)] at hc
  cases hc

end LogTable.Unicode
