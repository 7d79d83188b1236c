import LogTable.Proofs.Decoding
import LogTable.Proofs.Splitting
import LogTable.Text.Pieces

/-!
# Splitting bytes is splitting their text

Lines are cut as bytes and decoded one by one. It comes to the same as decoding everything and cutting the text,
since a newline and a carriage return are bytes that stand for themselves: a character that is cut off by one is
replaced in the line as it is in the whole text.

The induction over the bytes goes line by line (`induction_on_lines`).

Results: `linesOf_decoded`.
-/
namespace LogTable

open Text (cut decode)

/-! ## The lines of a text -/

/-- Leaves out the last of some pieces if it is empty. -/
def dropEmptyLast (pieces : List (List Char)) : List (List Char) :=
  if pieces.getLast? = some [] then pieces.dropLast else pieces

/-- Drops one carriage return at the end. -/
def dropReturnChar (line : List Char) : List Char :=
  if line.getLast? = some '\r' then line.dropLast else line

/-- The lines of a text: what stands between the newlines and behind the last one, if anything does. -/
def textLines (text : String) : List String :=
  (dropEmptyLast (cut '\n' text.toList)).map fun line => .ofList (dropReturnChar line)

namespace Text

theorem cut_append {sep : Char} {first : List Char} (h : sep ∉ first) (rest : List Char) :
    cut sep (first ++ sep :: rest) = first :: cut sep rest := by
  induction first with
  | nil => simp [cut]
  | cons c first ih =>
    have hc : c ≠ sep := fun e => h (e ▸ List.mem_cons_self)
    rw [List.cons_append, cut, if_neg hc, ih fun hmem => h (List.mem_cons_of_mem c hmem)]

theorem cut_of_not_mem {sep : Char} {cs : List Char} (h : sep ∉ cs) : cut sep cs = [cs] := by
  induction cs with
  | nil => rfl
  | cons c cs ih =>
    have hc : c ≠ sep := fun e => h (e ▸ List.mem_cons_self)
    rw [cut, if_neg hc, ih fun hmem => h (List.mem_cons_of_mem c hmem)]

end Text

theorem dropEmptyLast_cons (piece : List Char) {pieces : List (List Char)} (h : pieces ≠ []) :
    dropEmptyLast (piece :: pieces) = piece :: dropEmptyLast pieces := by
  obtain ⟨next, more, rfl⟩ := List.exists_cons_of_ne_nil h
  unfold dropEmptyLast
  rw [List.getLast?_cons_cons]
  split <;> rfl

theorem mem_of_mem_dropEmptyLast {piece : List Char} {pieces : List (List Char)}
    (h : piece ∈ dropEmptyLast pieces) : piece ∈ pieces := by
  unfold dropEmptyLast at h
  split at h
  · exact List.dropLast_subset _ h
  · exact h

theorem mem_of_mem_dropReturnChar {c : Char} {line : List Char} (h : c ∈ dropReturnChar line) : c ∈ line := by
  unfold dropReturnChar at h
  split at h
  · exact List.dropLast_subset _ h
  · exact h

/-! ## Line by line -/

/-- Bytes have no newline, or they go on behind the first one. -/
theorem induction_on_lines {P : List UInt8 → Prop} (last : ∀ bytes, newline ∉ bytes → P bytes)
    (line : ∀ first rest, newline ∉ first → P rest → P (first ++ newline :: rest)) (bytes : List UInt8) : P bytes := by
  suffices h : ∀ first, newline ∉ first → P (first ++ bytes) from h [] (List.not_mem_nil)
  induction bytes with
  | nil => exact fun first hfirst => last _ (by simpa using hfirst)
  | cons b rest ih =>
    intro first hfirst
    by_cases hb : b = newline
    · exact hb ▸ line first rest hfirst (ih [] List.not_mem_nil)
    · rw [List.append_cons]
      exact ih (first ++ [b]) (by simp [hfirst, Ne.symm hb])

theorem cutLines_line {first : List UInt8} (h : newline ∉ first) (rest : List UInt8) :
    cutLines (first ++ newline :: rest) = first :: cutLines rest := by
  induction first with
  | nil => rfl
  | cons b first ih =>
    have hb : b ≠ newline := fun e => h (e ▸ List.mem_cons_self)
    rw [List.cons_append, cutLines_cons, ih fun hmem => h (List.mem_cons_of_mem b hmem), consByte, if_neg hb]

theorem cutLines_of_not_mem {bytes : List UInt8} (h : newline ∉ bytes) (hne : bytes ≠ []) :
    cutLines bytes = [bytes] := by
  induction bytes with
  | nil => exact absurd rfl hne
  | cons b bytes ih =>
    have hb : b ≠ newline := fun e => h (e ▸ List.mem_cons_self)
    cases bytes with
    | nil => exact if_neg hb
    | cons b' bytes =>
      rw [cutLines_cons, ih (fun hmem => h (List.mem_cons_of_mem b hmem)) (List.cons_ne_nil b' bytes), consByte,
        if_neg hb]

/-! ## Decoding a line -/

theorem newline_not_mem_decode {bytes : List UInt8} (h : newline ∉ bytes) : '\n' ∉ (decode bytes).toList := by
  intro hmem
  obtain ⟨ds, es, he⟩ := List.append_of_mem hmem
  obtain ⟨first, rest, rfl, -⟩ := (he ▸ Text.decodes_decode bytes).exists_of_small (by decide)
  exact h (List.mem_append_right first List.mem_cons_self)

theorem decode_dropReturn (line : List UInt8) :
    (decode (dropReturn line)).toList = dropReturnChar (decode line).toList := by
  unfold dropReturn
  split
  · rename_i h
    obtain ⟨front, rfl⟩ := List.getLast?_eq_some_iff.1 h
    have hdecode := Text.toList_decode_append front [] (show carriageReturn.toNat < 0x80 by decide)
    rw [List.dropLast_concat, hdecode]
    show _ = dropReturnChar ((decode front).toList ++ ['\r'])
    rw [dropReturnChar, if_pos (List.getLast?_concat ..), List.dropLast_concat]
  · rename_i h
    rw [dropReturnChar, if_neg]
    intro hlast
    obtain ⟨ds, he⟩ := List.getLast?_eq_some_iff.1 hlast
    obtain ⟨first, rest, rfl, hrest⟩ := (he ▸ Text.decodes_decode line).exists_of_small (by decide)
    cases hrest
    exact h (List.getLast?_concat ..)

/-- A line that is cut out and decoded is the line of the decoded text. -/
theorem textLines_decode (bytes : List UInt8) : textLines (decode bytes) = (cutLines bytes).map lineText := by
  have hline : ∀ line, lineText line = .ofList (dropReturnChar (decode line).toList) := by
    intro line
    rw [← decode_dropReturn, String.ofList_toList, lineText]
  induction bytes using induction_on_lines with
  | last bytes h =>
    by_cases hne : bytes = []
    · subst hne
      rfl
    · have htext : (decode bytes).toList ≠ [] :=
        fun he => hne (Text.eq_nil_of_decodes (he ▸ Text.decodes_decode bytes))
      rw [textLines, Text.cut_of_not_mem (newline_not_mem_decode h), cutLines_of_not_mem h hne, dropEmptyLast,
        if_neg (by simpa using htext), List.map_singleton, List.map_singleton, hline]
  | line first rest h ih =>
    have hdecode := Text.toList_decode_append first rest (show newline.toNat < 0x80 by decide)
    have hcut : cut '\n' (decode (first ++ newline :: rest)).toList =
        (decode first).toList :: cut '\n' (decode rest).toList := by
      rw [hdecode]
      exact Text.cut_append (newline_not_mem_decode h) _
    rw [cutLines_line h, List.map_cons, hline, ← ih, textLines, hcut, dropEmptyLast_cons _ (Text.cut_ne_nil _ _)]
    rfl

/-! ## Results -/

theorem isComplete_iff (bytes : List UInt8) :
    isComplete bytes = true ↔ bytes = [] ∨ bytes.getLast? = some newline := by
  cases h : bytes.getLast? with
  | none => simp [isComplete, List.getLast?_eq_none_iff.1 h]
  | some b =>
    have hne : bytes ≠ [] := fun he => by simp [he] at h
    simp [isComplete, h, hne]

theorem newline_not_mem_linesOf {bytes : List UInt8} {line : String} (h : line ∈ (linesOf bytes).1) :
    '\n' ∉ line.toList := by
  have hline : line ∈ textLines (decode bytes) := by rwa [textLines_decode]
  obtain ⟨piece, hpiece, rfl⟩ := List.mem_map.1 hline
  rw [String.toList_ofList]
  intro hmem
  exact Text.not_mem_of_mem_cut (mem_of_mem_dropEmptyLast hpiece) (mem_of_mem_dropReturnChar hmem)

/-- **Splitting bytes is splitting their text.** Decoding puts a replacement character for each damaged part and
leaves the characters that are there. The lines are those of the decoded text, whatever the bytes are. Bytes are
complete if there are none or the last is a newline, and then whatever comes behind them is split by itself. No line
has a newline. -/
theorem linesOf_decoded (bytes : List UInt8) :
    (∀ cs, Text.Decodes bytes cs ↔ (decode bytes).toList = cs) ∧
    (linesOf bytes).1 = textLines (decode bytes) ∧
    ((linesOf bytes).2 = true ↔ bytes = [] ∨ bytes.getLast? = some newline) ∧
    ((bytes = [] ∨ bytes.getLast? = some newline) → ∀ rest,
      linesOf (bytes ++ rest) = ((linesOf bytes).1 ++ (linesOf rest).1, (linesOf rest).2)) ∧
    ∀ line ∈ (linesOf bytes).1, '\n' ∉ line.toList := by
  refine ⟨Text.decodes_iff bytes, (textLines_decode bytes).symm, isComplete_iff bytes, fun h rest => ?_,
    fun line => newline_not_mem_linesOf⟩
  have hbytes : isComplete bytes = true := (isComplete_iff bytes).2 h
  exact Prod.ext (linesOf_append rest hbytes) (isComplete_append_eq rest hbytes)

example : linesOf [0xE2, 0x82, 10, 0x82, 13, 10, 97] = (["\uFFFD", "\uFFFD", "a"], false) := by decide

end LogTable
