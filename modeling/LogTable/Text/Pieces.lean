/-!
# Cutting a text at a character

The pieces of a text are what stands between two separators, before the first and behind the last one; there
is always one piece more than separators.

Results:
* `intercalate_cut`: the pieces with the separator between them are the text.
* `not_mem_of_mem_cut`: no piece has a separator.
-/
namespace LogTable.Text

def cut (sep : Char) : List Char → List (List Char)
  | [] => [[]]
  | c :: rest =>
    if c = sep then [] :: cut sep rest
    else match cut sep rest with
      | piece :: more => (c :: piece) :: more
      | [] => [[c]]

theorem cut_ne_nil (sep : Char) : ∀ cs, cut sep cs ≠ []
  | [] => by simp [cut]
  | c :: rest => by
    unfold cut
    split
    · simp
    · split <;> simp

theorem intercalate_cut (sep : Char) (cs : List Char) : [sep].intercalate (cut sep cs) = cs := by
  induction cs with
  | nil => rfl
  | cons c rest ih =>
    obtain ⟨piece, more, h⟩ := List.exists_cons_of_ne_nil (cut_ne_nil sep rest)
    rw [h] at ih
    by_cases hc : c = sep
    · subst hc; simp [cut, h, ih]
    · cases more with
      | nil => simpa [cut, hc, h] using ih
      | cons next more => simpa [cut, hc, h] using ih

theorem not_mem_of_mem_cut {sep : Char} {piece : List Char} :
    ∀ {cs : List Char}, piece ∈ cut sep cs → sep ∉ piece
  | [], h => by simp_all [cut]
  | c :: rest, h => by
    obtain ⟨first, more, hr⟩ := List.exists_cons_of_ne_nil (cut_ne_nil sep rest)
    have ih : ∀ p ∈ cut sep rest, sep ∉ p := fun p hp => not_mem_of_mem_cut hp
    by_cases hc : c = sep
    · simp only [cut, hc, if_true, List.mem_cons] at h
      rcases h with rfl | h
      · simp
      · exact ih _ h
    · simp only [cut, hc, if_false, hr, List.mem_cons] at h
      rcases h with rfl | h
      · have := ih first (by simp [hr])
        simp [this, Ne.symm hc]
      · exact ih _ (by simp [hr, h])

def pieces (sep : Char) (text : String) : List String := (cut sep text.toList).map String.ofList

end LogTable.Text
