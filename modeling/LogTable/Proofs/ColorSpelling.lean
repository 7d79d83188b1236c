import LogTable.Format.File
import LogTable.Proofs.Trimming

/-!
# How colors are spelled

A color is meant to be written as six digits or three behind a number sign, or by a name, in either case: this is
`Spelled`, and it says what color a text is. Every text that is spelled so is read as its color, and one kind of other
texts is too. The reader of a pair of digits takes a plus sign for the higher one, so `#+f0000` is a color although it
is no more one than `#+ff`, which has three characters and is refused; such texts are `Signed`. What is read is written
in the long form, which is read as the same color again (`parse?_text`).

A format file that gives a highlight a color that cannot be read is refused as a whole: one value that cannot be
decoded stops the table it is in, and so the list and the document around it (`exists_error_foldlM`,
`exists_error_mapM`).

Results: `spelled_exactly_unless_signed`, and `signed_color_read` with three pairs that have a sign.
-/
namespace LogTable

open Unicode
open Toml (Value)

namespace Color

/-! ## Spellings -/

/-- The character is the hexadecimal digit of a number, in either case. -/
def Digit (c : Char) (n : Nat) : Prop := "0123456789abcdef".toList[n]? = some c.toLower

/-- The byte that two digits stand for, the higher one first. -/
inductive Pair : Char → Char → UInt8 → Prop
  | digits {a b : Char} {m n : Nat} (ha : Digit a m) (hb : Digit b n) : Pair a b (m * 16 + n).toUInt8

/-- The byte that a digit stands for behind a plus sign. -/
inductive SignedPair : Char → Char → UInt8 → Prop
  | plus {b : Char} {n : Nat} (hb : Digit b n) : SignedPair '+' b n.toUInt8

/-- What a text without blanks around it is meant to stand for. The short form doubles its digits; a name may be
written in capitals. -/
inductive Spelled : List Char → Color → Prop
  | long {a b c d e f : Char} {red green blue : UInt8} (hred : Pair a b red) (hgreen : Pair c d green)
    (hblue : Pair e f blue) : Spelled ['#', a, b, c, d, e, f] ⟨red, green, blue⟩
  | short {a b c : Char} {color : Color} (h : Spelled ['#', a, a, b, b, c, c] color) : Spelled ['#', a, b, c] color
  | named {cs : List Char} {name : String} {color : Color} (h : (name, color) ∈ palette)
    (hname : cs.map Char.toLower = name.toList.map Char.toLower) : Spelled cs color

/-- Three pairs of which at least one has a sign. -/
inductive Signed : List Char → Color → Prop
  | pairs {a b c d e f : Char} {red green blue : UInt8} (hsign : '+' ∈ [a, c, e])
    (hred : Pair a b red ∨ SignedPair a b red) (hgreen : Pair c d green ∨ SignedPair c d green)
    (hblue : Pair e f blue ∨ SignedPair e f blue) : Signed ['#', a, b, c, d, e, f] ⟨red, green, blue⟩

/-! ## Digits -/

theorem hexValue?_of_ascii : ∀ code : Fin 128, ∀ n : Fin 16,
    CodeSet.hexValue? (Char.ofNat code) = some n.val ↔ Digit (Char.ofNat code) n := by
  unfold Digit
  decide +kernel

theorem hexValue?_lt {c : Char} {n : Nat} (h : CodeSet.hexValue? c = some n) : c.toNat < 128 ∧ n < 16 := by
  have hle : ∀ a b : Char, a ≤ b ↔ a.toNat ≤ b.toNat := fun a b => Iff.rfl
  simp only [CodeSet.hexValue?, hle, Bool.and_eq_true, decide_eq_true_eq] at h
  simp only [show '0'.toNat = 48 from rfl, show '9'.toNat = 57 from rfl, show 'a'.toNat = 97 from rfl,
    show 'f'.toNat = 102 from rfl, show 'A'.toNat = 65 from rfl, show 'F'.toNat = 70 from rfl] at h
  split at h
  · cases h
    omega
  · split at h
    · cases h
      omega
    · split at h
      · cases h
        omega
      · cases h

theorem Digit.lt {c : Char} {n : Nat} (h : Digit c n) : c.toNat < 128 ∧ n < 16 := by
  obtain ⟨hn, he⟩ := List.getElem?_eq_some_iff.1 h
  have hn : n < 16 := hn
  refine ⟨?_, hn⟩
  have hsmall : "0123456789abcdef".toList.all (·.toNat < 128) = true := by decide
  have hlower : c.toLower.toNat < 128 := by
    have := List.all_eq_true.1 hsmall _ (he ▸ List.getElem_mem _)
    exact of_decide_eq_true this
  unfold Char.toLower at hlower
  split at hlower
  · rename_i hc
    have hle : c.toNat ≤ 90 := hc.2
    omega
  · exact hlower

theorem hexValue?_eq_some_iff {c : Char} {n : Nat} : CodeSet.hexValue? c = some n ↔ Digit c n := by
  constructor
  · intro h
    obtain ⟨hc, hn⟩ := hexValue?_lt h
    have := hexValue?_of_ascii ⟨c.toNat, hc⟩ ⟨n, hn⟩
    rw [Char.ofNat_toNat] at this
    exact this.1 h
  · intro h
    obtain ⟨hc, hn⟩ := h.lt
    have := hexValue?_of_ascii ⟨c.toNat, hc⟩ ⟨n, hn⟩
    rw [Char.ofNat_toNat] at this
    exact this.2 h

/-- With a plus sign the number is that of the other digit. -/
theorem pair?_plus (b : Char) : pair? '+' b = (CodeSet.hexValue? b).map (·.toUInt8) := by
  unfold pair?
  cases CodeSet.hexValue? b with
  | none => rfl
  | some low =>
    show some (0 * 16 + low).toUInt8 = some low.toUInt8
    rw [Nat.zero_mul, Nat.zero_add]

theorem pair?_of_ne {a : Char} (h : a ≠ '+') (b : Char) : pair? a b =
    (CodeSet.hexValue? b).bind fun low => (CodeSet.hexValue? a).map fun high => (high * 16 + low).toUInt8 := by
  unfold pair?
  simp only [if_neg h]
  cases CodeSet.hexValue? b <;> cases CodeSet.hexValue? a <;> rfl

theorem not_digit_plus (n : Nat) : ¬ Digit '+' n := by
  intro h
  have := hexValue?_eq_some_iff.2 h
  cases this

theorem pair?_eq_some_iff {a b : Char} {v : UInt8} : pair? a b = some v ↔ Pair a b v ∨ SignedPair a b v := by
  by_cases ha : a = '+'
  · subst ha
    rw [pair?_plus, Option.map_eq_some_iff]
    constructor
    · rintro ⟨n, hn, rfl⟩
      exact .inr (.plus (hexValue?_eq_some_iff.1 hn))
    · rintro (⟨ha, -⟩ | hsigned)
      · exact absurd ha (not_digit_plus _)
      · cases hsigned with
        | plus hb => exact ⟨_, hexValue?_eq_some_iff.2 hb, rfl⟩
  · rw [pair?_of_ne ha, Option.bind_eq_some_iff]
    constructor
    · rintro ⟨low, hlow, h⟩
      obtain ⟨high, hhigh, rfl⟩ := Option.map_eq_some_iff.1 h
      exact .inl (.digits (hexValue?_eq_some_iff.1 hhigh) (hexValue?_eq_some_iff.1 hlow))
    · rintro (⟨ha, hb⟩ | hsigned)
      · exact ⟨_, hexValue?_eq_some_iff.2 hb, Option.map_eq_some_iff.2 ⟨_, hexValue?_eq_some_iff.2 ha, rfl⟩⟩
      · cases hsigned
        exact absurd rfl ha

theorem double?_eq_some_iff {a : Char} {v : UInt8} : double? a = some v ↔ Pair a a v := by
  unfold double?
  rw [Option.map_eq_some_iff]
  constructor
  · rintro ⟨n, hn, rfl⟩
    rw [show n * 0x11 = n * 16 + n by omega]
    exact .digits (hexValue?_eq_some_iff.1 hn) (hexValue?_eq_some_iff.1 hn)
  · rintro ⟨ha, hb⟩
    rename_i m n
    have hm := hexValue?_eq_some_iff.2 ha
    have hn := hexValue?_eq_some_iff.2 hb
    have he : m = n := Option.some.inj (hm.symm.trans hn)
    subst he
    exact ⟨m, hm, by rw [show m * 0x11 = m * 16 + m by omega]⟩

/-! ## Texts -/

theorem ofDigits?_long {a b c d e f : Char} {color : Color} : ofDigits? [a, b, c, d, e, f] = some color ↔
    pair? a b = some color.red ∧ pair? c d = some color.green ∧ pair? e f = some color.blue := by
  obtain ⟨red, green, blue⟩ := color
  cases ha : pair? a b <;> cases hc : pair? c d <;> cases he : pair? e f <;> simp [ofDigits?, ha, hc, he]

theorem ofDigits?_short {a b c : Char} {color : Color} : ofDigits? [a, b, c] = some color ↔
    double? a = some color.red ∧ double? b = some color.green ∧ double? c = some color.blue := by
  obtain ⟨red, green, blue⟩ := color
  cases ha : double? a <;> cases hb : double? b <;> cases hc : double? c <;> simp [ofDigits?, ha, hb, hc]

/-- No name begins with a number sign. -/
theorem not_named_of_sign {cs : List Char} {name : String} {color : Color} (h : (name, color) ∈ palette) :
    ('#' :: cs).map Char.toLower ≠ name.toList.map Char.toLower := by
  have hnames : ∀ p ∈ palette, (p.1.toList.map Char.toLower).head? ≠ some '#' := by decide
  intro he
  refine hnames _ h ?_
  rw [← he]
  rfl

theorem ofDigits?_eq_some_iff {cs : List Char} {color : Color} :
    ofDigits? cs = some color ↔ Spelled ('#' :: cs) color ∨ Signed ('#' :: cs) color := by
  constructor
  · intro h
    unfold ofDigits? at h
    split at h
    · rename_i a b c d e f
      obtain ⟨hred, hgreen, hblue⟩ := ofDigits?_long.1 h
      rw [pair?_eq_some_iff] at hred hgreen hblue
      by_cases hsign : '+' ∈ [a, c, e]
      · exact .inr (.pairs hsign hred hgreen hblue)
      · -- without a sign no pair is a signed one
        have hpair : ∀ {x y : Char} {v : UInt8}, x ∈ [a, c, e] → Pair x y v ∨ SignedPair x y v → Pair x y v := by
          rintro x y v hx (hp | hs)
          · exact hp
          · cases hs
            exact absurd hx hsign
        exact .inl (.long (hpair (by simp) hred) (hpair (by simp) hgreen) (hpair (by simp) hblue))
    · obtain ⟨hred, hgreen, hblue⟩ := ofDigits?_short.1 h
      rw [double?_eq_some_iff] at hred hgreen hblue
      exact .inl (.short (.long hred hgreen hblue))
    · cases h
  · rintro (hspelled | hsigned)
    · cases hspelled with
      | long hred hgreen hblue =>
        simp only [ofDigits?_long, pair?_eq_some_iff]
        exact ⟨.inl hred, .inl hgreen, .inl hblue⟩
      | short h =>
        cases h with
        | long hred hgreen hblue =>
          simp only [ofDigits?_short, double?_eq_some_iff]
          exact ⟨hred, hgreen, hblue⟩
        | named hmem hname => exact absurd hname (not_named_of_sign hmem)
      | named hmem hname => exact absurd hname (not_named_of_sign hmem)
    · cases hsigned with
      | pairs _ hred hgreen hblue =>
        simp only [ofDigits?_long, pair?_eq_some_iff]
        exact ⟨hred, hgreen, hblue⟩

/-- The names are in small letters and no two are the same. -/
theorem palette_names : (∀ p ∈ palette, p.1.toList.map Char.toLower = p.1.toList) ∧
    ∀ p ∈ palette, palette.lookup p.1 = some p.2 := by
  decide

theorem ofName?_eq_some_iff {cs : List Char} {color : Color} :
    ofName? (.ofList (cs.map Char.toLower)) = some color ↔
      ∃ name, (name, color) ∈ palette ∧ cs.map Char.toLower = name.toList.map Char.toLower := by
  unfold ofName?
  constructor
  · intro h
    obtain ⟨front, back, hall, -⟩ := List.lookup_eq_some_iff.1 h
    have hmem : (String.ofList (cs.map Char.toLower), color) ∈ palette := by simp [hall]
    refine ⟨_, hmem, ?_⟩
    have hlower := palette_names.1 _ hmem
    rw [hlower, String.toList_ofList]
  · rintro ⟨name, hmem, hname⟩
    have hlower := palette_names.1 _ hmem
    rw [hname, hlower, String.ofList_toList]
    exact palette_names.2 _ hmem

theorem parse?_eq_some_iff {text : String} {color : Color} : parse? text = some color ↔
    Spelled (trimChars text.toList) color ∨ Signed (trimChars text.toList) color := by
  unfold parse?
  generalize trimChars text.toList = cs
  split
  · exact ofDigits?_eq_some_iff
  · rename_i cs hno
    rw [ofName?_eq_some_iff]
    constructor
    · rintro ⟨name, hmem, hname⟩
      exact .inl (.named hmem hname)
    · rintro (hspelled | hsigned)
      · cases hspelled with
        | long | short => exact absurd rfl (hno _)
        | named hmem hname => exact ⟨_, hmem, hname⟩
      · cases hsigned
        exact absurd rfl (hno _)

/-! ## Written and read again -/

theorem digit_of_lt : ∀ n : Fin 16, Digit (digit n) n ∧ isBlank (digit n) = false := by
  unfold Digit
  decide +kernel

theorem pair_hexPair (v : UInt8) : Pair (digit (v.toNat / 16)) (digit (v.toNat % 16)) v := by
  have hv := v.toNat_lt
  have hhigh := (digit_of_lt ⟨v.toNat / 16, by omega⟩).1
  have hlow := (digit_of_lt ⟨v.toNat % 16, by omega⟩).1
  have hboth : (v.toNat / 16 * 16 + v.toNat % 16).toUInt8 = v := by
    rw [Nat.div_add_mod']
    exact UInt8.ofNat_toNat
  have hpair := Pair.digits hhigh hlow
  rwa [hboth] at hpair

theorem trimmed_text (c : Color) : Trimmed c.text.toList := by
  unfold text
  rw [String.toList_ofList]
  refine ⟨fun x hx => ?_, fun x hx => ?_⟩
  · cases hx
    rfl
  · have hlast : x = digit (c.blue.toNat % 16) := by simpa [hexPair] using hx.symm
    subst hlast
    exact (digit_of_lt ⟨c.blue.toNat % 16, by omega⟩).2

theorem parse?_text (c : Color) : parse? c.text = some c := by
  rw [parse?_eq_some_iff, trimChars_of_trimmed c.trimmed_text, text, String.toList_ofList]
  exact .inl (.long (pair_hexPair c.red) (pair_hexPair c.green) (pair_hexPair c.blue))

end Color

/-! ## In a format file -/

/-- One element on which every step fails stops a fold. -/
theorem exists_error_foldlM {σ α ε : Type} (step : σ → α → Except ε σ) {x : α} {xs : List α} (hx : x ∈ xs)
    (h : ∀ s, ∃ fault, step s x = .error fault) (s : σ) : ∃ fault, xs.foldlM step s = .error fault := by
  induction xs generalizing s with
  | nil => cases hx
  | cons y rest ih =>
    rw [List.foldlM_cons]
    rcases List.mem_cons.1 hx with rfl | hrest
    · obtain ⟨fault, hfault⟩ := h s
      exact ⟨fault, by rw [hfault]; rfl⟩
    · cases step s y with
      | error fault => exact ⟨fault, rfl⟩
      | ok s' => exact ih hrest s'

theorem exists_error_mapM {α β ε : Type} {f : α → Except ε β} {x : α} {xs : List α} (hx : x ∈ xs)
    (h : ∃ fault, f x = .error fault) : ∃ fault, xs.mapM f = .error fault := by
  induction xs with
  | nil => cases hx
  | cons y rest ih =>
    rw [List.mapM_cons]
    rcases List.mem_cons.1 hx with rfl | hrest
    · obtain ⟨fault, hfault⟩ := h
      exact ⟨fault, by rw [hfault]; rfl⟩
    · cases f y with
      | error fault => exact ⟨fault, rfl⟩
      | ok y' =>
        obtain ⟨fault, hfault⟩ := ih hrest
        exact ⟨fault, by rw [hfault]; rfl⟩

/-- The fields of a highlight in a document, which gives it as a table or as the values in the order of the fields. -/
def ruleFields : Value → List (String × Value)
  | .table entries => entries
  | .array values => EntryFields.names.zip values
  | _ => []

/-- A document gives a highlight this text for one of its colors. -/
inductive GivesColor (entries : List (String × Value)) (text : String) : Prop
  | field {rules : List Value} {rule : Value} {key : String} (hrules : ("highlights", .array rules) ∈ entries)
    (hrule : rule ∈ rules) (hkey : key = "fg" ∨ key = "bg") (hfield : (key, .string text) ∈ ruleFields rule)

section
variable {text : String} (h : Color.parse? text = none)
include h

theorem EntryFields.exists_error_take {key : String} (hkey : key = "fg" ∨ key = "bg") (e : EntryFields) :
    ∃ fault, e.take key (.string text) = .error fault := by
  have hcolor : decodeColor (.string text) = .error (.unknownColor text) := by
    simp only [decodeColor, decodeString, bind, Except.bind, h]
    rfl
  refine ⟨.unknownColor text, ?_⟩
  rcases hkey with rfl | rfl <;> simp only [take, hcolor] <;> rfl

theorem exists_error_decodeRule {rule : Value} {key : String} (hkey : key = "fg" ∨ key = "bg")
    (hfield : (key, .string text) ∈ ruleFields rule) : ∃ fault, decodeRule rule = .error fault := by
  have hall : ∃ fault, EntryFields.takeAll {} (ruleFields rule) = .error fault :=
    exists_error_foldlM (fun (e : EntryFields) (x : String × Value) => e.take x.1 x.2) hfield
      (EntryFields.exists_error_take h hkey) {}
  obtain ⟨fault, hfault⟩ := hall
  refine ⟨fault, ?_⟩
  cases rule with
  | table entries | array values =>
    unfold ruleFields at hfault
    simp only [decodeRule, hfault]
    rfl
  | _ => cases hfield

theorem FormatFile.exists_error_decode {entries : List (String × Value)} (hgives : GivesColor entries text) :
    ∃ fault, decode entries = .error fault := by
  obtain ⟨hrules, hrule, hkey, hfield⟩ := hgives
  rename_i rules rule key
  have hlist : ∃ fault, decodeRules (.array rules) = .error fault :=
    exists_error_mapM hrule (exists_error_decodeRule h hkey hfield)
  obtain ⟨fault, hlist⟩ := hlist
  have htake : ∀ fields : FileFields, ∃ fault, fields.take "highlights" (.array rules) = .error fault := by
    intro fields
    simp only [FileFields.take, hlist]
    exact ⟨fault, rfl⟩
  obtain ⟨fault, hfault⟩ := exists_error_foldlM
    (fun (f : FileFields) (x : String × Value) => f.take x.1 x.2) hrules htake {}
  refine ⟨fault, ?_⟩
  unfold decode
  rw [hfault]
  rfl

/-- A document with a color that cannot be read makes no format. -/
theorem Format.refused_of_color {document : String} {entries : List (String × Value)}
    (hdocument : Toml.parse document = .ok entries) (hgives : GivesColor entries text) :
    (∃ why, (ofText document).value = .error why) ∧
      ∀ (disk : Disk) path, disk.readText path = .ok document → ∃ why, (load disk path).value = .error why := by
  obtain ⟨fault, hfault⟩ := FormatFile.exists_error_decode h hgives
  have hparse : FormatFile.parse document = .error (.schema fault) := by
    rw [FormatFile.parse, hdocument]
    simp only [hfault]
    rfl
  refine ⟨⟨.config (.document none (.schema fault)), ?_⟩,
    fun disk path hread => ⟨.config (.document (some path) (.schema fault)), ?_⟩⟩
  · rw [ofText, hparse]
    rfl
  · rw [load, hread]
    simp only [hparse]
    rfl

end

/-- **Colors are read as they are spelled, and pairs of digits with a sign too.** A text stands for a color if it is
spelled as this color between its blanks, or consists of three pairs of which some have a plus sign; no other text
does. The color is written as a text that stands for it again. A document that gives a highlight any other text for a
color is refused, from a text and from a path. -/
theorem Color.spelled_exactly_unless_signed (text : String) :
    (∀ color, parse? text = some color ↔
      Spelled (trimChars text.toList) color ∨ Signed (trimChars text.toList) color) ∧
    (∀ color, parse? text = some color → parse? color.text = some color) ∧
    ((∀ color, ¬ Spelled (trimChars text.toList) color ∧ ¬ Signed (trimChars text.toList) color) →
      ∀ document entries, Toml.parse document = .ok entries → GivesColor entries text →
        (∃ why, (Format.ofText document).value = .error why) ∧ ∀ (disk : Disk) path,
          disk.readText path = .ok document → ∃ why, (Format.load disk path).value = .error why) := by
  refine ⟨fun color => parse?_eq_some_iff, fun color _ => color.parse?_text,
    fun hno document entries hdocument hgives => ?_⟩
  have hnone : Color.parse? text = none := by
    rw [Option.eq_none_iff_forall_ne_some]
    intro color hcolor
    rcases parse?_eq_some_iff.1 hcolor with h | h
    · exact (hno color).1 h
    · exact (hno color).2 h
  exact Format.refused_of_color hnone hdocument hgives

/-- Plus signs in the place of digits make a color. -/
theorem Color.signed_color_read :
    parse? "#+f+f+f" = some ⟨15, 15, 15⟩ ∧ ∀ color, ¬ Spelled (trimChars "#+f+f+f".toList) color := by
  have htrim : trimChars "#+f+f+f".toList = ['#', '+', 'f', '+', 'f', '+', 'f'] := rfl
  refine ⟨rfl, fun color hspelled => ?_⟩
  rw [htrim] at hspelled
  cases hspelled with
  | long hred =>
    cases hred with
    | digits ha => exact not_digit_plus _ ha
  | named hmem hname => exact not_named_of_sign hmem hname

end LogTable
