import LogTable.Condition
import LogTable.Proofs.Trimming

/-!
# Definitions of conditions are read exactly

A definition is `Written` from an operator and an operand, with blanks before, between and behind them. What it
`Means` depends on the operator and on the operand without blanks and quotes around it, and on nothing else. A
definition that is not written so is malformed.

The reader sees the trimmed definition: the spelling of an operator and a rest, which `Fits` the operator if it shows
that the operator is meant. Both directions go through this form: a written definition has it with the same operand
(`Written.exists_rest`), from it the condition is read (`parse_of_fits`), what is read has it (`parse_fits`), and what
has it is written (`written_of_fits`).

Results: `definitions_read_exactly`.
-/
namespace LogTable.Condition

open Unicode Number

/-! ## How definitions are written -/

/-- How an operator is written. -/
def Operator.spelling : Operator → String
  | .contains => "contains"
  | .equals => "=="
  | .notEquals => "!="
  | .compare .less => "<"
  | .compare .atMost => "<="
  | .compare .greater => ">"
  | .compare .atLeast => ">="
  | .matches => "~"

/-- What may stand behind an operator: blanks part the word from an operand, and what could be the end of a longer
operator does not follow a shorter one. -/
structure Operator.Allows (op : Operator) (gap operand : List Char) : Prop where
  apart : op = .contains → gap ≠ [] ∧ trimChars operand ≠ []
  whole : op = .compare .less ∨ op = .compare .greater → (gap ++ operand).head? ≠ some '='

/-- The definition has the operator and the operand, and otherwise blanks. -/
def Written (op : Operator) (operand : List Char) (definition : String) : Prop :=
  ∃ before gap behind, Blanks before ∧ Blanks gap ∧ Blanks behind ∧ op.Allows gap operand ∧
    definition.toList = before ++ op.spelling.toList ++ gap ++ operand ++ behind

/-- What reading a definition gives, by its operator and its operand. -/
inductive Means (definition : String) : Operator → String → Except Failure Condition → Prop
  | equals (x : String) : Means definition .equals x (.ok (.equals x))
  | notEquals (x : String) : Means definition .notEquals x (.ok (.notEquals x))
  | contains (x : String) : Means definition .contains x (.ok (.contains x))
  | matches {x : String} {regex : Regex} (h : Regex.compile x = .ok regex) :
    Means definition .matches x (.ok (.matches regex))
  | badPattern {x : String} {fault : Regex.Fault} (h : Regex.compile x = .error fault) :
    Means definition .matches x (.error (.condition definition (.pattern fault)))
  | compare (op : Comparison) {x : String} {value : Binary64} (h : Binary64.read? x = some value) :
    Means definition (.compare op) x (.ok (.compare op value))
  | notANumber (op : Comparison) {x : String} (h : Binary64.read? x = none) :
    Means definition (.compare op) x (.error (.condition definition (.notANumber x)))

theorem means_build (definition : String) (op : Operator) (x : String) :
    Means definition op x ((build op x).mapError (.condition definition)) := by
  cases op with
  | equals => exact .equals x
  | notEquals => exact .notEquals x
  | contains => exact .contains x
  | «matches» =>
    cases h : Regex.compile x with
    | ok regex => simpa [build, h] using .matches h
    | error fault => simpa [build, h] using .badPattern h
  | compare op =>
    cases h : Binary64.read? x with
    | some value => simpa [build, h] using .compare op h
    | none => simpa [build, h] using .notANumber op h

/-- There is one thing that an operator and an operand mean. -/
theorem Means.eq_build {definition x : String} {op : Operator} {result : Except Failure Condition}
    (h : Means definition op x result) : result = (build op x).mapError (.condition definition) := by
  cases h with
  | equals | notEquals | contains => rfl
  | «matches» h | badPattern h =>
    simp only [build, h]
    rfl
  | compare _ h | notANumber _ h =>
    simp only [build, h]
    rfl

/-- A definition that means something has an operator. -/
theorem Means.ne_unknown {definition x : String} {op : Operator} {result : Except Failure Condition}
    (h : Means definition op x result) : result ≠ .error (.condition definition .unknownOperator) := by
  cases h <;> simp

/-! ## The trimmed definition -/

/-- What follows the spelling shows that the operator is meant. -/
structure Operator.Fits (op : Operator) (rest : List Char) : Prop where
  apart : op = .contains → ∃ c, rest.head? = some c ∧ isBlank c = true
  whole : op = .compare .less ∨ op = .compare .greater → rest.head? ≠ some '='

theorem Operator.spelling_ne_nil (op : Operator) : op.spelling.toList ≠ [] := by
  rcases op with _ | _ | _ | (_ | _ | _ | _) | _ <;> decide

theorem Operator.trimmed_spelling (op : Operator) : Trimmed op.spelling.toList := by
  rcases op with _ | _ | _ | (_ | _ | _ | _) | _ <;> constructor <;> rintro _ ⟨⟩ <;> decide

theorem after?_eq_some {front : String} {cs rest : List Char} (h : after? front cs = some rest) :
    cs = front.toList ++ rest := by
  unfold after? at h
  split at h
  · rename_i hp
    obtain ⟨more, rfl⟩ := List.isPrefixOf_iff_prefix.1 hp
    rw [List.drop_left] at h
    rw [Option.some.inj h]
  · cases h

theorem not_prefix_of_head? {c : Char} {cs : List Char} (h : cs.head? ≠ some c) : ¬ [c] <+: cs := by
  rintro ⟨more, rfl⟩
  exact h rfl

theorem splitOperator?_spelling {op : Operator} {rest : List Char}
    (h : op = .compare .less ∨ op = .compare .greater → rest.head? ≠ some '=') :
    splitOperator? (op.spelling.toList ++ rest) = some (op, rest) := by
  cases op with
  | contains => rfl
  | equals => rfl
  | notEquals => rfl
  | «matches» => rfl
  | compare op =>
    cases op with
    | atMost => rfl
    | atLeast => rfl
    -- All that are tried before begin otherwise, but for the longer operator.
    | less =>
      have hlonger : ¬ ['='] <+: rest := not_prefix_of_head? (h (.inl rfl))
      refine List.findSome?_eq_some_iff.2 ⟨operators.take 5, ("<", .compare .less), operators.drop 6, rfl, rfl, ?_⟩
      simp [operators, after?, Operator.spelling, List.cons_prefix_cons, hlonger]
    | greater =>
      have hlonger : ¬ ['='] <+: rest := not_prefix_of_head? (h (.inr rfl))
      refine List.findSome?_eq_some_iff.2 ⟨operators.take 6, (">", .compare .greater), operators.drop 7, rfl, rfl, ?_⟩
      simp [operators, after?, Operator.spelling, List.cons_prefix_cons, hlonger]

theorem splitOperator?_eq_some {cs rest : List Char} {op : Operator} (h : splitOperator? cs = some (op, rest)) :
    cs = op.spelling.toList ++ rest ∧ (op = .compare .less ∨ op = .compare .greater → rest.head? ≠ some '=') := by
  obtain ⟨⟨front, op'⟩, hmem, hfound⟩ := List.exists_of_findSome?_eq_some h
  obtain ⟨rest', hafter, he⟩ := Option.map_eq_some_iff.1 hfound
  cases he
  have hfront : ∀ x ∈ operators, x.1 = x.2.spelling := by decide
  have hcs : cs = op.spelling.toList ++ rest := hfront _ hmem ▸ after?_eq_some hafter
  refine ⟨hcs, fun hop hhead => ?_⟩
  obtain ⟨more, rfl⟩ := List.head?_eq_some_iff.1 hhead
  rw [hcs] at h
  obtain rfl | rfl := hop
  · have hlonger : splitOperator? ('<' :: '=' :: more) = some (.compare .atMost, more) := rfl
    cases hlonger.symm.trans h
  · have hlonger : splitOperator? ('>' :: '=' :: more) = some (.compare .atLeast, more) := rfl
    cases hlonger.symm.trans h

/-! ## Reading -/

theorem parse_of_fits {definition : String} {op : Operator} {rest : List Char}
    (hcs : trimChars definition.toList = op.spelling.toList ++ rest) (hfits : op.Fits rest) :
    parse definition = build op (.ofList (unquote (trimChars rest))) := by
  unfold parse
  rw [hcs, splitOperator?_spelling hfits.whole]
  simp only
  rw [if_neg]
  intro h
  rw [Bool.and_eq_true, decide_eq_true_eq] at h
  obtain ⟨c, hc, hblank⟩ := hfits.apart h.1
  simp [hc, hblank] at h

/-- A definition is malformed, or it shows an operator. -/
theorem parse_fits (definition : String) :
    parse definition = .error .unknownOperator ∨ ∃ (op : Operator) (rest : List Char),
      trimChars definition.toList = op.spelling.toList ++ rest ∧ op.Fits rest := by
  unfold parse
  split
  · exact .inl rfl
  · rename_i op rest hsplit
    obtain ⟨hcs, hwhole⟩ := splitOperator?_eq_some hsplit
    split
    · exact .inl rfl
    · rename_i hapart
      refine .inr ⟨op, rest, hcs, fun hop => ?_, hwhole⟩
      simpa [hop, Option.any_eq_true] using hapart

/-- The trimmed definition of one that is written from an operator and an operand. -/
theorem Written.exists_rest {op : Operator} {operand : List Char} {definition : String}
    (h : Written op operand definition) : ∃ rest, trimChars definition.toList = op.spelling.toList ++ rest ∧
      op.Fits rest ∧ trimChars rest = trimChars operand := by
  obtain ⟨before, gap, behind, hbefore, hgap, hbehind, hallows, hcs⟩ := h
  obtain ⟨rest, blanks, hsplit, hblanks, hlast⟩ : ∃ rest blanks, gap ++ operand = rest ++ blanks ∧ Blanks blanks ∧
    NoBlankFirst rest.reverse := ⟨_, exists_trimEnd (gap ++ operand)⟩
  have hoperand : trimChars rest = trimChars operand := by
    calc trimChars rest
      _ = trimChars (rest ++ blanks) := (trimChars_append blanks_nil hblanks rest).symm
      _ = trimChars (gap ++ operand ++ []) := by rw [hsplit, List.append_nil]
      _ = trimChars operand := trimChars_append hgap blanks_nil operand
  have hhead : ∀ c, rest.head? = some c → (gap ++ operand).head? = some c := by
    intro c hc
    rw [hsplit, List.head?_append, hc]
    rfl
  refine ⟨rest, ?_, ⟨fun hop => ?_, fun hop hc => hallows.whole hop (hhead _ hc)⟩, hoperand⟩
  · have hall : definition.toList = before ++ (op.spelling.toList ++ rest) ++ (blanks ++ behind) := by
      rw [hcs, List.append_assoc _ gap, hsplit]
      simp only [List.append_assoc]
    rw [hall]
    exact trimChars_eq hbefore (op.trimmed_spelling.append op.spelling_ne_nil hlast)
      (blanks_append.2 ⟨hblanks, hbehind⟩)
  · obtain ⟨hgapne, hne⟩ := hallows.apart hop
    cases hrest : rest.head? with
    | none =>
      rw [List.head?_eq_none_iff.1 hrest] at hoperand
      exact absurd hoperand.symm hne
    | some c =>
      obtain ⟨g, gap, rfl⟩ := List.exists_cons_of_ne_nil hgapne
      cases hhead c hrest
      exact ⟨c, rfl, hgap c List.mem_cons_self⟩

/-- What shows an operator is written from it. -/
theorem written_of_fits {definition : String} {op : Operator} {rest : List Char}
    (hcs : trimChars definition.toList = op.spelling.toList ++ rest) (hfits : op.Fits rest) :
    ∃ operand, Written op operand definition := by
  obtain ⟨before, behind, hdef, hbefore, hbehind, htrimmed⟩ := exists_trimChars definition.toList
  obtain ⟨gap, hrest, hgap, hfirst⟩ := exists_trimStart rest
  refine ⟨trimStart rest, before, gap, behind, hbefore, hgap, hbehind, ⟨fun hop => ?_, fun hop => ?_⟩, ?_⟩
  · obtain ⟨c, hc, hblank⟩ := hfits.apart hop
    refine ⟨?_, fun hnil => ?_⟩
    · rintro rfl
      rw [hrest] at hc
      rw [hfirst c hc] at hblank
      cases hblank
    · have hblanks : Blanks rest := hrest ▸ blanks_append.2 ⟨hgap, blanks_of_trimChars_eq_nil hnil⟩
      rw [hcs] at htrimmed
      rw [htrimmed.eq_nil_of_blanks hblanks] at hc
      cases hc
  · rw [← hrest]
    exact hfits.whole hop
  · rw [hdef, hcs, List.append_assoc _ gap, ← hrest, ← List.append_assoc before]

theorem means_of_written {op : Operator} {operand : List Char} {definition : String}
    (h : Written op operand definition) :
    Means definition op (.ofList (unquote (trimChars operand))) (read definition) := by
  obtain ⟨rest, hcs, hfits, hoperand⟩ := h.exists_rest
  rw [read, parse_of_fits hcs hfits, hoperand]
  exact means_build definition op _

theorem read_eq_unknown_iff (definition : String) :
    read definition = .error (.condition definition .unknownOperator) ↔
      ∀ op operand, ¬ Written op operand definition := by
  constructor
  · intro h op operand hwritten
    exact (means_of_written hwritten).ne_unknown h
  · intro hno
    obtain h | ⟨op, rest, hcs, hfits⟩ := parse_fits definition
    · rw [read, h]
      rfl
    · obtain ⟨operand, hwritten⟩ := written_of_fits hcs hfits
      exact absurd hwritten (hno op operand)

/-! ## Quotes -/

/-- A text in double quotes. -/
def quoted (text : List Char) : List Char := '"' :: (text ++ ['"'])

theorem trimmed_quoted (text : List Char) : Trimmed (quoted text) := by
  have hquote : Trimmed ['"'] := by constructor <;> rintro _ ⟨⟩ <;> decide
  refine hquote.append (List.cons_ne_nil _ _) ?_
  show NoBlankFirst (text ++ ['"']).reverse
  rw [List.reverse_append]
  exact hquote.last.append (List.cons_ne_nil _ _) _

/-- The quotes keep whatever they are put around. -/
theorem unquote_quoted (text : List Char) : unquote (trimChars (quoted text)) = text := by
  rw [trimChars_of_trimmed (trimmed_quoted text)]
  simp [unquote, quoted]

theorem written_quoted {op : Operator} {gap : String} (hgap : Blanks gap.toList)
    (hop : op = .contains → gap.toList ≠ []) (hne : ¬ (op = .compare .less ∨ op = .compare .greater))
    (text : String) : Written op (quoted text.toList) (op.spelling ++ gap ++ "\"" ++ text ++ "\"") := by
  refine ⟨[], gap.toList, [], blanks_nil, hgap, blanks_nil, ⟨fun h => ⟨hop h, ?_⟩, fun h => absurd h hne⟩, ?_⟩
  · rw [trimChars_of_trimmed (trimmed_quoted text.toList)]
    exact List.cons_ne_nil _ _
  · simp [quoted]

/-- Behind an operator and a gap, a text in quotes is the operand as it is. -/
theorem read_quoted (op : Operator) {gap : String} (hgap : Blanks gap.toList)
    (hop : op = .contains → gap.toList ≠ []) (hne : ¬ (op = .compare .less ∨ op = .compare .greater))
    (text : String) : read (op.spelling ++ gap ++ "\"" ++ text ++ "\"") =
      (build op text).mapError (.condition (op.spelling ++ gap ++ "\"" ++ text ++ "\"")) := by
  have := (means_of_written (written_quoted hgap hop hne text)).eq_build
  rwa [unquote_quoted, String.ofList_toList] at this

/-- **Definitions of conditions are read exactly.** A definition that is written from an operator and an operand
means what the operator and the operand, without the blanks and then the quotes around it, stand for; any other is
malformed, and the failure names it. Whatever text stands in double quotes is an operand as it is. -/
theorem definitions_read_exactly (definition : String) :
    (∀ op operand, Written op operand definition →
      Means definition op (.ofList (unquote (trimChars operand))) (read definition)) ∧
    (read definition = .error (.condition definition .unknownOperator) ↔
      ∀ op operand, ¬ Written op operand definition) ∧
    ∀ text gap : String, Blanks gap.toList →
      read ("==" ++ gap ++ "\"" ++ text ++ "\"") = .ok (.equals text) ∧
      read ("!=" ++ gap ++ "\"" ++ text ++ "\"") = .ok (.notEquals text) ∧
      (gap.toList ≠ [] → read ("contains" ++ gap ++ "\"" ++ text ++ "\"") = .ok (.contains text)) := by
  refine ⟨fun op operand => means_of_written, read_eq_unknown_iff definition, fun text gap hgap => ⟨?_, ?_, ?_⟩⟩
  · exact read_quoted .equals hgap (by simp) (by simp) text
  · exact read_quoted .notEquals hgap (by simp) (by simp) text
  · exact fun hne => read_quoted .contains hgap (fun _ => hne) (by simp) text

end LogTable.Condition
