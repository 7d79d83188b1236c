import Mathlib.Order.Nat
import LogTable.Text.Utf8

/-!
# What damaged UTF-8 decodes to

Bytes stand for a text: where the bytes of a character are, they stand for it, and where none is, one replacement
character stands for as many bytes as are a beginning of some character, or for a single byte. `Decodes` says so
without a decoder. There is exactly one such text, and it is the one that `decode` gives.

The decoder reads a byte at a time, so what it knows of a character is a `Partial`. `Partial.finish?` completes one,
and the bytes that do so are exactly the other bytes of the character (`finish?_iff`). A character begun can always
be completed (`Partial.exists_finish?_next`), so the decoder gives a character up exactly where what it has read is
the longest beginning of one (`charsFrom_broken`).

A byte below `80` is a character by itself and is in no other. It ends whatever stands before it, so text can be cut
there and decoded piece by piece.

Results: `decodes_iff`, `Decodes.append`.
-/
namespace LogTable.Text

open String (utf8EncodeChar)

/-! ## Bytes -/

theorem exists_byte {n : Nat} (h : n < 0x100) : ∃ b : UInt8, b.toNat = n := ⟨.ofNat n, UInt8.toNat_ofNat_of_lt' h⟩

theorem byte_eq {n : Nat} {b : UInt8} (h : b.toNat = n) : UInt8.ofNat n = b := by
  rw [← h]
  exact UInt8.ofNat_toNat

/-! ## Characters begun -/

namespace Partial

/-- The bits with those of one more byte. -/
def shift (p : Partial) (b : UInt8) : Nat := p.value * 0x40 + (b.toNat - 0x80)

/-- The character with one more byte of it read, when more are to come. -/
def next (p : Partial) (b : UInt8) : Partial := ⟨p.shift b, p.left - 1, 0x80, 0xBF⟩

/-- The byte goes on with the character. -/
def Takes (p : Partial) (b : UInt8) : Prop := p.low ≤ b.toNat ∧ b.toNat ≤ p.high

instance (p : Partial) (b : UInt8) : Decidable (p.Takes b) := inferInstanceAs (Decidable (_ ∧ _))

/-- The character that some bytes complete. -/
def finish? : Partial → List UInt8 → Option Char
  | _, [] => none
  | p, b :: more =>
    if p.Takes b then
      if p.left ≤ 1 then if more = [] then some (.ofNat (p.shift b)) else none
      else (p.next b).finish? more
    else none

theorem finish?_last {p : Partial} {b : UInt8} {n : Nat} (ht : p.Takes b) (hl : p.left ≤ 1) (hn : p.shift b = n) :
    p.finish? [b] = some (.ofNat n) := by
  rw [finish?, if_pos ht, if_pos hl, if_pos rfl, hn]

theorem finish?_cons {p : Partial} {b : UInt8} (ht : p.Takes b) (hl : 1 < p.left) (more : List UInt8) :
    p.finish? (b :: more) = (p.next b).finish? more := by
  rw [finish?, if_pos ht, if_neg (Nat.not_le.2 hl)]

/-- The last byte of a character adds the last six bits. -/
theorem finish?_end {w v : Nat} {b : UInt8} (hb : b.toNat = v % 0x40 + 0x80) (hw : w = v / 0x40) :
    finish? ⟨w, 1, 0x80, 0xBF⟩ [b] = some (.ofNat v) := by
  refine finish?_last ⟨?_, ?_⟩ (Nat.le_refl 1) ?_
  · show 0x80 ≤ b.toNat
    omega
  · show b.toNat ≤ 0xBF
    omega
  · show w * 0x40 + (b.toNat - 0x80) = v
    omega

/-- Another byte that is not the last adds six bits to those before. -/
theorem finish?_more {w l lo hi v : Nat} {b : UInt8} (hb : b.toNat = v % 0x40 + 0x80) (hw : w = v / 0x40)
    (hlo : lo ≤ b.toNat) (hhi : b.toNat ≤ hi) (hl : 1 < l) (more : List UInt8) :
    finish? ⟨w, l, lo, hi⟩ (b :: more) = finish? ⟨v, l - 1, 0x80, 0xBF⟩ more := by
  have hshift : shift ⟨w, l, lo, hi⟩ b = v := by
    show w * 0x40 + (b.toNat - 0x80) = v
    omega
  rw [finish?_cons ⟨hlo, hhi⟩ hl, next, hshift]

/-- The bits that a byte adds. -/
theorem exists_bits {p : Partial} {b : UInt8} (hlo : 0x80 ≤ p.low) (hhi : p.high ≤ 0xBF) (ht : p.Takes b) :
    ∃ m < 0x40, b.toNat = m + 0x80 ∧ p.shift b = p.value * 0x40 + m := by
  obtain ⟨h₁, h₂⟩ := ht
  exact ⟨b.toNat - 0x80, by omega, by omega, rfl⟩

/-- The first of some bytes that complete a character adds six bits. It is the last of them, or the others complete
the character with these bits. -/
theorem finish?_eq_some {v l lo hi : Nat} {bytes : List UInt8} {c : Char} (hlo : 0x80 ≤ lo) (hhi : hi ≤ 0xBF)
    (h : finish? ⟨v, l, lo, hi⟩ bytes = some c) : ∃ (b : UInt8) (m : Nat) (more : List UInt8),
      bytes = b :: more ∧ b.toNat = m + 0x80 ∧ m < 0x40 ∧ lo ≤ m + 0x80 ∧ m + 0x80 ≤ hi ∧
        (l ≤ 1 ∧ more = [] ∧ c = .ofNat (v * 0x40 + m) ∨
          1 < l ∧ finish? ⟨v * 0x40 + m, l - 1, 0x80, 0xBF⟩ more = some c) := by
  cases bytes with
  | nil => cases h
  | cons b more =>
    rw [finish?] at h
    split at h
    · rename_i ht
      obtain ⟨m, hm, hb, hshift⟩ := exists_bits hlo hhi ht
      obtain ⟨h₁, h₂⟩ : lo ≤ b.toNat ∧ b.toNat ≤ hi := ht
      rw [hb] at h₁ h₂
      refine ⟨b, m, more, rfl, hb, hm, h₁, h₂, ?_⟩
      rw [next, hshift] at h
      split at h
      · rename_i hl
        split at h
        · rename_i hmore
          exact .inl ⟨hl, hmore, (Option.some.inj h).symm⟩
        · cases h
      · rename_i hl
        exact .inr ⟨Nat.lt_of_not_le hl, h⟩
    · cases h

/-- A byte stands for itself if it is that small: it goes on with no character begun. -/
theorem byte_ge_of_finish? {p : Partial} {more : List UInt8} {c : Char} (hlow : 0x80 ≤ p.low)
    (h : p.finish? more = some c) : ∀ b ∈ more, 0x80 ≤ b.toNat := by
  induction more generalizing p with
  | nil => simp
  | cons b more ih =>
    rw [finish?] at h
    split at h
    · rename_i ht
      refine List.forall_mem_cons.2 ⟨Nat.le_trans hlow ht.1, ?_⟩
      split at h
      · split at h
        · rename_i hmore
          simp [hmore]
        · cases h
      · exact ih (Nat.le_refl _) h
    · cases h

theorem exists_takes (p : Partial) (hrange : p.low ≤ p.high) (hhigh : p.high ≤ 0xBF) : ∃ b, p.Takes b := by
  obtain ⟨b, hb⟩ := exists_byte (n := p.low) (by omega)
  exact ⟨b, hb.ge, hb.trans_le hrange⟩

/-- Every character begun can be completed. -/
theorem exists_finish? {p : Partial} (hrange : p.low ≤ p.high) (hhigh : p.high ≤ 0xBF) :
    ∃ more c, p.finish? more = some c := by
  induction hn : p.left generalizing p with
  | zero =>
    obtain ⟨b, ht⟩ := p.exists_takes hrange hhigh
    exact ⟨_, _, finish?_last ht (by omega) rfl⟩
  | succ n ih =>
    obtain ⟨b, ht⟩ := p.exists_takes hrange hhigh
    by_cases hl : p.left ≤ 1
    · exact ⟨_, _, finish?_last ht hl rfl⟩
    · obtain ⟨more, c, h⟩ := ih (p := p.next b) (show 0x80 ≤ 0xBF by decide) (Nat.le_refl 0xBF)
        (show p.left - 1 = n by omega)
      exact ⟨_, c, (finish?_cons ht (Nat.lt_of_not_le hl) more).trans h⟩

theorem exists_finish?_next (p : Partial) (b : UInt8) : ∃ more c, (p.next b).finish? more = some c :=
  exists_finish? (show 0x80 ≤ 0xBF by decide) (Nat.le_refl 0xBF)

end Partial

/-! ## First bytes -/

theorem lead_of_two {b : Nat} (h₁ : 0xC2 ≤ b) (h₂ : b < 0xE0) : lead b = .begins ⟨b - 0xC0, 1, 0x80, 0xBF⟩ := by
  rw [lead, if_neg (by omega), if_neg (by omega), if_pos h₂]

theorem lead_of_three {b : Nat} (h₁ : 0xE0 ≤ b) (h₂ : b < 0xF0) : lead b =
    .begins ⟨b - 0xE0, 2, if b = 0xE0 then 0xA0 else 0x80, if b = 0xED then 0x9F else 0xBF⟩ := by
  rw [lead, if_neg (by omega), if_neg (by omega), if_neg (by omega), if_pos h₂]

theorem lead_of_four {b : Nat} (h₁ : 0xF0 ≤ b) (h₂ : b < 0xF5) : lead b =
    .begins ⟨b - 0xF0, 3, if b = 0xF0 then 0x90 else 0x80, if b = 0xF4 then 0x8F else 0xBF⟩ := by
  rw [lead, if_neg (by omega), if_neg (by omega), if_neg (by omega), if_neg (by omega), if_pos h₂]

/-- What begins a character of several bytes: the bits of its first byte, and how it goes on. -/
theorem lead_begins {b : Nat} {p : Partial} (h : lead b = .begins p) : ∃ n,
    (b = n + 0xC0 ∧ 2 ≤ n ∧ n < 0x20 ∧ p = ⟨n, 1, 0x80, 0xBF⟩) ∨
    (b = n + 0xE0 ∧ n < 0x10 ∧
      p = ⟨n, 2, if n + 0xE0 = 0xE0 then 0xA0 else 0x80, if n + 0xE0 = 0xED then 0x9F else 0xBF⟩) ∨
    (b = n + 0xF0 ∧ n < 5 ∧
      p = ⟨n, 3, if n + 0xF0 = 0xF0 then 0x90 else 0x80, if n + 0xF0 = 0xF4 then 0x8F else 0xBF⟩) := by
  by_cases h₁ : b < 0xC2
  · rw [lead, if_pos h₁] at h
    split at h <;> cases h
  by_cases h₂ : b < 0xE0
  · obtain ⟨n, rfl⟩ : ∃ n, b = n + 0xC0 := ⟨b - 0xC0, by omega⟩
    rw [lead_of_two (by omega) h₂, Nat.add_sub_cancel] at h
    exact ⟨n, .inl ⟨rfl, by omega, by omega, (Lead.begins.inj h).symm⟩⟩
  by_cases h₃ : b < 0xF0
  · obtain ⟨n, rfl⟩ : ∃ n, b = n + 0xE0 := ⟨b - 0xE0, by omega⟩
    rw [lead_of_three (by omega) h₃, Nat.add_sub_cancel] at h
    exact ⟨n, .inr (.inl ⟨rfl, by omega, (Lead.begins.inj h).symm⟩)⟩
  by_cases h₄ : b < 0xF5
  · obtain ⟨n, rfl⟩ : ∃ n, b = n + 0xF0 := ⟨b - 0xF0, by omega⟩
    rw [lead_of_four (by omega) h₄, Nat.add_sub_cancel] at h
    exact ⟨n, .inr (.inr ⟨rfl, by omega, (Lead.begins.inj h).symm⟩)⟩
  · rw [lead, if_neg (by omega), if_neg h₁, if_neg h₂, if_neg h₃, if_neg h₄] at h
    cases h

/-! ## The bytes of a character -/

theorem toNat_ofNat_of_valid {n : Nat} (h : n.isValidChar) : (Char.ofNat n).toNat = n := by
  unfold Char.ofNat
  rw [dif_pos h]
  rfl

theorem encode_one {v : Nat} {b : UInt8} (hb : b.toNat = v) (h : v < 0x80) : utf8EncodeChar (.ofNat v) = [b] := by
  have hv : (Char.ofNat v).val.toNat = v := toNat_ofNat_of_valid (.inl (by omega))
  unfold utf8EncodeChar
  rw [hv]
  simp only
  rw [if_pos (by omega), byte_eq hb]

theorem encode_two {v : Nat} {b₀ b₁ : UInt8} (h₀ : b₀.toNat = v / 0x40 + 0xC0) (h₁ : b₁.toNat = v % 0x40 + 0x80)
    (hlo : 0x80 ≤ v) (hhi : v < 0x800) : utf8EncodeChar (.ofNat v) = [b₀, b₁] := by
  have hv : (Char.ofNat v).val.toNat = v := toNat_ofNat_of_valid (.inl (by omega))
  unfold utf8EncodeChar
  rw [hv]
  simp only
  rw [if_neg (by omega), if_pos (by omega), byte_eq (b := b₀) (by omega), byte_eq (b := b₁) (by omega)]

theorem encode_three {v : Nat} {b₀ b₁ b₂ : UInt8} (h₀ : b₀.toNat = v / 0x1000 + 0xE0)
    (h₁ : b₁.toNat = v / 0x40 % 0x40 + 0x80) (h₂ : b₂.toNat = v % 0x40 + 0x80)
    (hlo : 0x800 ≤ v) (hhi : v < 0x10000) (hv : v.isValidChar) : utf8EncodeChar (.ofNat v) = [b₀, b₁, b₂] := by
  have hv : (Char.ofNat v).val.toNat = v := toNat_ofNat_of_valid hv
  unfold utf8EncodeChar
  rw [hv]
  simp only
  rw [if_neg (by omega), if_neg (by omega), if_pos (by omega), byte_eq (b := b₀) (by omega),
    byte_eq (b := b₁) (by omega), byte_eq (b := b₂) (by omega)]

theorem encode_four {v : Nat} {b₀ b₁ b₂ b₃ : UInt8} (h₀ : b₀.toNat = v / 0x40000 + 0xF0)
    (h₁ : b₁.toNat = v / 0x1000 % 0x40 + 0x80) (h₂ : b₂.toNat = v / 0x40 % 0x40 + 0x80)
    (h₃ : b₃.toNat = v % 0x40 + 0x80) (hlo : 0x10000 ≤ v) (hhi : v < 0x110000) :
    utf8EncodeChar (.ofNat v) = [b₀, b₁, b₂, b₃] := by
  have hv : (Char.ofNat v).val.toNat = v := toNat_ofNat_of_valid (.inr ⟨by omega, hhi⟩)
  unfold utf8EncodeChar
  rw [hv]
  simp only
  rw [if_neg (by omega), if_neg (by omega), if_neg (by omega), byte_eq (b := b₀) (by omega),
    byte_eq (b := b₁) (by omega), byte_eq (b := b₂) (by omega), byte_eq (b := b₃) (by omega)]

theorem lead_encode_two {v : Nat} (hlo : 0x80 ≤ v) (hhi : v < 0x800) :
    ∃ b more p, utf8EncodeChar (.ofNat v) = b :: more ∧ lead b.toNat = .begins p ∧
      p.finish? more = some (.ofNat v) := by
  obtain ⟨b₀, h₀⟩ := exists_byte (n := v / 0x40 + 0xC0) (by omega)
  obtain ⟨b₁, h₁⟩ := exists_byte (n := v % 0x40 + 0x80) (by omega)
  refine ⟨b₀, [b₁], _, encode_two h₀ h₁ hlo hhi, lead_of_two (by omega) (by omega), ?_⟩
  exact Partial.finish?_end h₁ (by omega)

theorem lead_encode_three {v : Nat} (hlo : 0x800 ≤ v) (hhi : v < 0x10000) (hv : v.isValidChar) :
    ∃ b more p, utf8EncodeChar (.ofNat v) = b :: more ∧ lead b.toNat = .begins p ∧
      p.finish? more = some (.ofNat v) := by
  obtain ⟨b₀, h₀⟩ := exists_byte (n := v / 0x1000 + 0xE0) (by omega)
  obtain ⟨b₁, h₁⟩ := exists_byte (n := v / 0x40 % 0x40 + 0x80) (by omega)
  obtain ⟨b₂, h₂⟩ := exists_byte (n := v % 0x40 + 0x80) (by omega)
  refine ⟨b₀, [b₁, b₂], _, encode_three h₀ h₁ h₂ hlo hhi hv, lead_of_three (by omega) (by omega), ?_⟩
  refine (Partial.finish?_more h₁ (by omega) ?_ ?_ (by decide) [b₂]).trans (Partial.finish?_end h₂ rfl)
  · split <;> omega
  · unfold Nat.isValidChar at hv
    split <;> omega

theorem lead_encode_four {v : Nat} (hlo : 0x10000 ≤ v) (hhi : v < 0x110000) :
    ∃ b more p, utf8EncodeChar (.ofNat v) = b :: more ∧ lead b.toNat = .begins p ∧
      p.finish? more = some (.ofNat v) := by
  obtain ⟨b₀, h₀⟩ := exists_byte (n := v / 0x40000 + 0xF0) (by omega)
  obtain ⟨b₁, h₁⟩ := exists_byte (n := v / 0x1000 % 0x40 + 0x80) (by omega)
  obtain ⟨b₂, h₂⟩ := exists_byte (n := v / 0x40 % 0x40 + 0x80) (by omega)
  obtain ⟨b₃, h₃⟩ := exists_byte (n := v % 0x40 + 0x80) (by omega)
  refine ⟨b₀, [b₁, b₂, b₃], _, encode_four h₀ h₁ h₂ h₃ hlo hhi, lead_of_four (by omega) (by omega), ?_⟩
  calc Partial.finish? _ [b₁, b₂, b₃]
    _ = Partial.finish? ⟨v / 0x1000, 2, 0x80, 0xBF⟩ [b₂, b₃] :=
      Partial.finish?_more h₁ (by omega) (by split <;> omega) (by split <;> omega) (by decide) _
    _ = Partial.finish? ⟨v / 0x40, 1, 0x80, 0xBF⟩ [b₃] :=
      Partial.finish?_more h₂ (by omega) (by omega) (by omega) (by decide) _
    _ = some (.ofNat v) := Partial.finish?_end h₃ rfl

/-- How a character is read off its bytes. -/
theorem lead_encode (c : Char) :
    (∃ b, utf8EncodeChar c = [b] ∧ lead b.toNat = .char c) ∨
      ∃ b more p, utf8EncodeChar c = b :: more ∧ lead b.toNat = .begins p ∧ p.finish? more = some c := by
  have hv : c.toNat.isValidChar := c.valid
  rw [← Char.ofNat_toNat c]
  generalize c.toNat = v at hv
  by_cases h₁ : v < 0x80
  · obtain ⟨b, hb⟩ := exists_byte (n := v) (by omega)
    exact .inl ⟨b, encode_one hb h₁, by rw [hb, lead, if_pos h₁]⟩
  by_cases h₂ : v < 0x800
  · exact .inr (lead_encode_two (by omega) h₂)
  by_cases h₃ : v < 0x10000
  · exact .inr (lead_encode_three (by omega) h₃ hv)
  · unfold Nat.isValidChar at hv
    exact .inr (lead_encode_four (by omega) (by omega))

/-- What the first byte of a character begins. -/
theorem lead_of_encode {c : Char} {b : UInt8} {more : List UInt8} (h : utf8EncodeChar c = b :: more) :
    more = [] ∧ lead b.toNat = .char c ∨ ∃ p, lead b.toNat = .begins p ∧ p.finish? more = some c := by
  obtain ⟨b', he, hl⟩ | ⟨b', more', p, he, hl, hf⟩ := lead_encode c
  · cases h.symm.trans he
    exact .inl ⟨rfl, hl⟩
  · cases h.symm.trans he
    exact .inr ⟨p, hl, hf⟩

theorem encode_of_lead_char {b : UInt8} {c : Char} (h : lead b.toNat = .char c) : utf8EncodeChar c = [b] := by
  unfold lead at h
  split at h
  · rename_i hb
    cases h
    exact encode_one rfl hb
  · repeat' split at h
    all_goals cases h

/-- Bytes that complete a character are its bytes. -/
theorem encode_of_finish? {b : UInt8} {p : Partial} {more : List UInt8} {c : Char} (hb : lead b.toNat = .begins p)
    (h : p.finish? more = some c) : utf8EncodeChar c = b :: more := by
  obtain ⟨n, ⟨hn, hlo, hhi, rfl⟩ | ⟨hn, hhi, rfl⟩ | ⟨hn, hhi, rfl⟩⟩ := lead_begins hb
  · obtain ⟨b₁, m₁, _, rfl, hb₁, hm₁, -, -, ⟨-, rfl, rfl⟩ | ⟨hl, -⟩⟩ :=
      Partial.finish?_eq_some (Nat.le_refl _) (Nat.le_refl _) h
    · exact encode_two (by omega) (by omega) (by omega) (by omega)
    · exact absurd hl (Nat.lt_irrefl 1)
  · obtain ⟨b₁, m₁, _, rfl, hb₁, hm₁, h₁, h₁', ⟨hl, -⟩ | ⟨-, h⟩⟩ :=
      Partial.finish?_eq_some (by split <;> omega) (by split <;> omega) h
    · exact absurd hl (by decide)
    obtain ⟨b₂, m₂, _, rfl, hb₂, hm₂, -, -, ⟨-, rfl, rfl⟩ | ⟨hl, -⟩⟩ :=
      Partial.finish?_eq_some (Nat.le_refl _) (Nat.le_refl _) h
    · refine encode_three (by omega) (by omega) (by omega) ?_ (by omega) ?_
      · split at h₁ <;> omega
      · unfold Nat.isValidChar
        split at h₁' <;> omega
    · exact absurd hl (Nat.lt_irrefl 1)
  · obtain ⟨b₁, m₁, _, rfl, hb₁, hm₁, h₁, h₁', ⟨hl, -⟩ | ⟨-, h⟩⟩ :=
      Partial.finish?_eq_some (by split <;> omega) (by split <;> omega) h
    · exact absurd hl (by decide)
    obtain ⟨b₂, m₂, _, rfl, hb₂, hm₂, -, -, ⟨hl, -⟩ | ⟨-, h⟩⟩ :=
      Partial.finish?_eq_some (Nat.le_refl _) (Nat.le_refl _) h
    · exact absurd hl (by decide)
    obtain ⟨b₃, m₃, _, rfl, hb₃, hm₃, -, -, ⟨-, rfl, rfl⟩ | ⟨hl, -⟩⟩ :=
      Partial.finish?_eq_some (Nat.le_refl _) (Nat.le_refl _) h
    · refine encode_four (by omega) (by omega) (by omega) (by omega) ?_ ?_
      · split at h₁ <;> omega
      · split at h₁' <;> omega
    · exact absurd hl (Nat.lt_irrefl 1)

/-- Bytes complete a character begun exactly if they are the other bytes of the character. -/
theorem finish?_iff {b : UInt8} {p : Partial} (hb : lead b.toNat = .begins p) (more : List UInt8) (c : Char) :
    p.finish? more = some c ↔ utf8EncodeChar c = b :: more := by
  refine ⟨encode_of_finish? hb, fun h => ?_⟩
  obtain ⟨-, hl⟩ | ⟨p', hl, hf⟩ := lead_of_encode h
  · cases hb.symm.trans hl
  · cases hb.symm.trans hl
    exact hf

/-- No character begins with a byte that begins nothing. -/
theorem encode_ne_of_bad {b : UInt8} (hb : lead b.toNat = .bad) (more : List UInt8) (c : Char) :
    utf8EncodeChar c ≠ b :: more := by
  intro h
  obtain ⟨-, hl⟩ | ⟨p, hl, -⟩ := lead_of_encode h
  · cases hb.symm.trans hl
  · cases hb.symm.trans hl

/-- A character has at least one byte. -/
theorem encode_ne_nil (c : Char) : utf8EncodeChar c ≠ [] := by
  obtain ⟨b, h, -⟩ | ⟨b, more, p, h, -, -⟩ := lead_encode c
  all_goals simp [h]

/-- A byte that stands for itself is among the bytes of no other character. -/
theorem encode_of_mem {c : Char} {b : UInt8} (hb : b.toNat < 0x80) (h : b ∈ utf8EncodeChar c) :
    utf8EncodeChar c = [b] := by
  obtain ⟨b', he, -⟩ | ⟨b', more, p, he, hl, hf⟩ := lead_encode c
  · rw [he, List.mem_singleton] at h
    rw [he, h]
  · obtain ⟨n, hp⟩ := lead_begins hl
    have hlow : 0x80 ≤ p.low := by
      obtain ⟨-, -, -, rfl⟩ | ⟨-, -, rfl⟩ | ⟨-, -, rfl⟩ := hp
      · exact Nat.le_refl _
      all_goals
        dsimp only
        split <;> omega
    rw [he] at h
    obtain rfl | h := List.mem_cons.1 h
    · omega
    · have := Partial.byte_ge_of_finish? hlow hf b h
      omega

/-! ## The decoder -/

/-- The text of some bytes behind a character begun. -/
def charsFrom (pending : Option Partial) (bytes : List UInt8) : List Char :=
  (bytes.foldl Decoder.push ⟨[], pending⟩).text

namespace Decoder

/-- The characters so far are kept. -/
theorem push_done (done : List Char) (pending : Option Partial) (b : UInt8) :
    push ⟨done, pending⟩ b = ⟨(push ⟨[], pending⟩ b).done ++ done, (push ⟨[], pending⟩ b).pending⟩ := by
  have hstart : ∀ done n, start ⟨done, none⟩ n =
      ⟨(start ⟨[], none⟩ n).done ++ done, (start ⟨[], none⟩ n).pending⟩ := by
    intro done n
    unfold start
    split <;> rfl
  cases pending with
  | none => exact hstart done b.toNat
  | some p =>
    simp only [push]
    split
    · split <;> rfl
    · simp only [flush, emit, Option.isSome_some, if_true]
      rw [hstart, hstart [replacement], List.append_assoc]
      rfl

theorem text_foldl (bytes : List UInt8) (done : List Char) (pending : Option Partial) :
    (bytes.foldl push ⟨done, pending⟩).text = done.reverse ++ charsFrom pending bytes := by
  induction bytes generalizing done pending with
  | nil => cases pending <;> simp [charsFrom, text, flush, emit]
  | cons b bytes ih =>
    unfold charsFrom
    rw [List.foldl_cons, push_done, ih, List.foldl_cons, ih, List.reverse_append, List.append_assoc]

end Decoder

section Bytes

variable {b : UInt8} {p : Partial} (bytes : List UInt8)

theorem charsFrom_char {c : Char} (h : lead b.toNat = .char c) :
    charsFrom none (b :: bytes) = c :: charsFrom none bytes := by
  rw [charsFrom, List.foldl_cons, Decoder.push]
  simp only [Decoder.start, h, Decoder.emit]
  exact Decoder.text_foldl bytes [c] none

theorem charsFrom_begins (h : lead b.toNat = .begins p) :
    charsFrom none (b :: bytes) = charsFrom (some p) bytes := by
  rw [charsFrom, List.foldl_cons, Decoder.push]
  simp only [Decoder.start, h]
  rfl

theorem charsFrom_bad (h : lead b.toNat = .bad) :
    charsFrom none (b :: bytes) = replacement :: charsFrom none bytes := by
  rw [charsFrom, List.foldl_cons, Decoder.push]
  simp only [Decoder.start, h, Decoder.emit]
  exact Decoder.text_foldl bytes [replacement] none

theorem charsFrom_last (ht : p.Takes b) (hl : p.left ≤ 1) :
    charsFrom (some p) (b :: bytes) = .ofNat (p.shift b) :: charsFrom none bytes := by
  rw [charsFrom, List.foldl_cons, Decoder.push]
  simp only [ht.1, ht.2, hl, decide_true, Bool.and_self, if_true, Decoder.emit]
  exact Decoder.text_foldl bytes [_] none

theorem charsFrom_next (ht : p.Takes b) (hl : 1 < p.left) :
    charsFrom (some p) (b :: bytes) = charsFrom (some (p.next b)) bytes := by
  rw [charsFrom, List.foldl_cons, Decoder.push]
  simp only [ht.1, ht.2, Nat.not_le.2 hl, decide_true, Bool.and_self, if_true, if_false]
  rfl

theorem charsFrom_stop (ht : ¬ p.Takes b) :
    charsFrom (some p) (b :: bytes) = replacement :: charsFrom none (b :: bytes) := by
  have ht' : ¬ (decide (p.low ≤ b.toNat) && decide (b.toNat ≤ p.high)) = true := by
    simpa [Partial.Takes] using ht
  rw [charsFrom, List.foldl_cons, Decoder.push]
  simp only [if_neg ht']
  exact Decoder.text_foldl (b :: bytes) [replacement] none

end Bytes

/-- Bytes that complete a character are read as this character. -/
theorem charsFrom_finish {p : Partial} {more : List UInt8} {c : Char} (h : p.finish? more = some c)
    (bytes : List UInt8) : charsFrom (some p) (more ++ bytes) = c :: charsFrom none bytes := by
  induction more generalizing p with
  | nil => cases h
  | cons b more ih =>
    rw [Partial.finish?] at h
    split at h
    · rename_i ht
      split at h
      · rename_i hl
        split at h
        · rename_i hmore
          rw [hmore, ← Option.some.inj h]
          exact charsFrom_last bytes ht hl
        · cases h
      · rename_i hl
        exact (charsFrom_next _ ht (Nat.lt_of_not_le hl)).trans (ih h)
    · cases h

/-- A character is read off its bytes, whatever comes behind them. -/
theorem charsFrom_encode (c : Char) (bytes : List UInt8) :
    charsFrom none (utf8EncodeChar c ++ bytes) = c :: charsFrom none bytes := by
  obtain ⟨b, he, hl⟩ | ⟨b, more, p, he, hl, hf⟩ := lead_encode c
  · rw [he]
    exact charsFrom_char bytes hl
  · rw [he, List.cons_append, charsFrom_begins _ hl]
    exact charsFrom_finish hf bytes

/-! ## Damaged bytes -/

/-- The bytes are a beginning of a character. -/
def Begins (part : List UInt8) : Prop := ∃ c, part <+: utf8EncodeChar c

/-- With `rest` behind them, the bytes are as many as can be replaced at once: no character is there, and they are
the longest beginning of one or a single byte. -/
structure Damaged (part rest : List UInt8) : Prop where
  ne_nil : part ≠ []
  short : part.length = 1 ∨ Begins part
  no_char : ∀ c, ¬ utf8EncodeChar c <+: part ++ rest
  longest : ∀ longer, longer <+: part ++ rest → Begins longer → longer.length ≤ part.length

/-- The text that bytes stand for: the characters that are there, and one replacement character for each damaged
part. -/
inductive Decodes : List UInt8 → List Char → Prop
  | nil : Decodes [] []
  | char (c : Char) {rest : List UInt8} {cs : List Char} (h : Decodes rest cs) :
    Decodes (utf8EncodeChar c ++ rest) (c :: cs)
  | damaged {part rest : List UInt8} {cs : List Char} (hpart : Damaged part rest) (h : Decodes rest cs) :
    Decodes (part ++ rest) (replacement :: cs)

/-- A character begun is replaced as a whole where it goes no further. The induction is on what has been read of
it. -/
theorem charsFrom_broken {p : Partial} {part rest : List UInt8}
    (hbegins : part = [] ∨ ∃ more c, p.finish? (part ++ more) = some c)
    (hno : ∀ more c, more <+: part ++ rest → p.finish? more ≠ some c)
    (hlongest : ∀ b more c, part ++ [b] <+: part ++ rest → p.finish? (part ++ b :: more) ≠ some c) :
    charsFrom (some p) (part ++ rest) = replacement :: charsFrom none rest := by
  induction part generalizing p with
  | nil =>
    cases rest with
    | nil => rfl
    | cons b rest =>
      refine charsFrom_stop rest fun ht => ?_
      by_cases hl : p.left ≤ 1
      · exact hno [b] _ (by simp) (Partial.finish?_last ht hl rfl)
      · obtain ⟨more, c, h⟩ := p.exists_finish?_next b
        exact hlongest b more c (by simp) ((Partial.finish?_cons ht (Nat.lt_of_not_le hl) more).trans h)
  | cons b part ih =>
    obtain ⟨more, c, h⟩ := hbegins.resolve_left (List.cons_ne_nil b part)
    have ht : p.Takes b := by
      refine Decidable.not_not.1 fun ht => ?_
      rw [List.cons_append, Partial.finish?, if_neg ht] at h
      cases h
    have hl : 1 < p.left := by
      refine Nat.lt_of_not_le fun hl => ?_
      exact hno [b] _ (by simp) (Partial.finish?_last ht hl rfl)
    have hstep := Partial.finish?_cons ht hl
    rw [List.cons_append, charsFrom_next _ ht hl]
    refine ih (.inr ⟨more, c, (hstep _).symm.trans h⟩) (fun more c hmore h => ?_) fun b' more c hmore h => ?_
    · exact hno (b :: more) c (List.cons_prefix_cons.2 ⟨rfl, hmore⟩) ((hstep more).trans h)
    · exact hlongest b' more c (List.cons_prefix_cons.2 ⟨rfl, hmore⟩) ((hstep _).trans h)

theorem charsFrom_damaged {part rest : List UInt8} (h : Damaged part rest) :
    charsFrom none (part ++ rest) = replacement :: charsFrom none rest := by
  obtain ⟨b, part, rfl⟩ := List.exists_cons_of_ne_nil h.ne_nil
  have hshort : part = [] ∨ Begins (b :: part) := h.short.imp_left fun h => by simpa using h
  cases hb : lead b.toNat with
  | char c => exact absurd (by simp [encode_of_lead_char hb]) (h.no_char c)
  | bad =>
    obtain rfl | ⟨c, more, hc⟩ := hshort
    · exact charsFrom_bad rest hb
    · exact absurd hc.symm (encode_ne_of_bad hb _ c)
  | begins p =>
    rw [List.cons_append, charsFrom_begins _ hb]
    refine charsFrom_broken ?_ (fun more c hmore hf => ?_) fun b' more c hmore hf => ?_
    · refine hshort.imp_right fun ⟨c, more, hc⟩ => ⟨more, c, ?_⟩
      rw [finish?_iff hb, ← hc, List.cons_append]
    · rw [finish?_iff hb] at hf
      refine h.no_char c ?_
      rw [hf]
      exact List.cons_prefix_cons.2 ⟨rfl, hmore⟩
    · rw [finish?_iff hb] at hf
      have hlen := h.longest (b :: part ++ [b']) (List.cons_prefix_cons.2 ⟨rfl, hmore⟩) ⟨c, more, by simp [hf]⟩
      exact absurd hlen (by simp)

theorem charsFrom_of_decodes {bytes : List UInt8} {cs : List Char} (h : Decodes bytes cs) :
    charsFrom none bytes = cs := by
  induction h with
  | nil => rfl
  | char c _ ih => rw [charsFrom_encode, ih]
  | damaged hpart _ ih => rw [charsFrom_damaged hpart, ih]

/-- Some beginning of the bytes with a property is the longest. -/
theorem exists_longest {P : List UInt8 → Prop} {bytes part : List UInt8} (hpart : part <+: bytes) (h : P part) :
    ∃ part, part <+: bytes ∧ P part ∧ ∀ longer, longer <+: bytes → P longer → longer.length ≤ part.length := by
  classical
  have hP : P (bytes.take part.length) := by rwa [← List.prefix_iff_eq_take.1 hpart]
  let n := Nat.findGreatest (fun n => P (bytes.take n)) bytes.length
  have hn : P (bytes.take n) := Nat.findGreatest_spec (P := fun n => P (bytes.take n)) hpart.length_le hP
  refine ⟨bytes.take n, List.take_prefix n bytes, hn, fun longer hlonger h => ?_⟩
  rw [List.length_take_of_le (Nat.findGreatest_le _)]
  refine Nat.le_findGreatest hlonger.length_le ?_
  rwa [← List.prefix_iff_eq_take.1 hlonger]

/-- Where no character is, some bytes can be replaced. -/
theorem exists_damaged {bytes : List UInt8} (hne : bytes ≠ []) (hno : ∀ c, ¬ utf8EncodeChar c <+: bytes) :
    ∃ part rest, bytes = part ++ rest ∧ Damaged part rest := by
  obtain ⟨b, more, rfl⟩ := List.exists_cons_of_ne_nil hne
  have hfirst : [b] <+: b :: more := List.prefix_append [b] more
  obtain ⟨part, ⟨rest, h⟩, hshort, hlongest⟩ :=
    exists_longest (P := fun part => part.length = 1 ∨ Begins part) hfirst (.inl rfl)
  have hone := hlongest [b] hfirst (.inl rfl)
  refine ⟨part, rest, h.symm, fun he => ?_, hshort, by rwa [h], fun longer hl hb => ?_⟩
  · simp [he] at hone
  · exact hlongest longer (h ▸ hl) (.inr hb)

/-- Any bytes stand for some text. The induction is on their number. -/
theorem exists_decodes (bytes : List UInt8) : ∃ cs, Decodes bytes cs := by
  induction hn : bytes.length using Nat.strongRecOn generalizing bytes with
  | ind n ih =>
    by_cases hne : bytes = []
    · exact hne ▸ ⟨[], .nil⟩
    by_cases hc : ∃ c, utf8EncodeChar c <+: bytes
    · obtain ⟨c, rest, rfl⟩ := hc
      have hpos := List.length_pos_iff.2 (encode_ne_nil c)
      obtain ⟨cs, h⟩ := ih rest.length (by rw [List.length_append] at hn; omega) rest rfl
      exact ⟨c :: cs, .char c h⟩
    · obtain ⟨part, rest, rfl, hpart⟩ := exists_damaged hne (not_exists.1 hc)
      have hpos := List.length_pos_iff.2 hpart.ne_nil
      obtain ⟨cs, h⟩ := ih rest.length (by rw [List.length_append] at hn; omega) rest rfl
      exact ⟨replacement :: cs, .damaged hpart h⟩

/-- Decoding gives the text that the bytes stand for, and there is no other. -/
theorem decodes_iff (bytes : List UInt8) (cs : List Char) : Decodes bytes cs ↔ (decode bytes).toList = cs := by
  have hdecode : (decode bytes).toList = charsFrom none bytes := String.toList_ofList
  rw [hdecode]
  refine ⟨charsFrom_of_decodes, ?_⟩
  rintro rfl
  obtain ⟨cs, h⟩ := exists_decodes bytes
  rwa [charsFrom_of_decodes h]

theorem decodes_decode (bytes : List UInt8) : Decodes bytes (decode bytes).toList := (decodes_iff bytes _).2 rfl

/-- Any byte leaves something in the text. -/
theorem eq_nil_of_decodes {bytes : List UInt8} (h : Decodes bytes []) : bytes = [] := by
  cases h
  rfl

/-! ## Bytes that stand for themselves -/

/-- A part that is damaged stays so if what comes behind it goes on with a byte that stands for itself. -/
theorem Damaged.append {part rest : List UInt8} (h : Damaged part rest) {b : UInt8} (hb : b.toNat < 0x80)
    (bytes : List UInt8) : Damaged part (rest ++ b :: bytes) := by
  -- A character, or a beginning of one, that reaches as far as `b` would have `b` among its bytes.
  have hcut : ∀ part', part' <+: part ++ (rest ++ b :: bytes) → Begins part' → part' <+: part ++ rest := by
    intro part' hp ⟨c, hc⟩
    rw [← List.append_assoc] at hp
    obtain hp | ⟨more, rfl⟩ := List.prefix_or_prefix_of_prefix hp (List.prefix_append (part ++ rest) (b :: bytes))
    · exact hp
    cases more with
    | nil => simp
    | cons b' more =>
      have hb' : b' = b := by
        rw [List.prefix_append_right_inj] at hp
        exact (List.cons_prefix_cons.1 hp).1
      subst hb'
      have hone := encode_of_mem hb (hc.subset (by simp))
      have hlen := hc.length_le
      have hpos := List.length_pos_iff.2 h.ne_nil
      simp [hone] at hlen
      omega
  refine ⟨h.ne_nil, h.short, fun c hc => ?_, fun longer hl hbegins => ?_⟩
  · exact h.no_char c (hcut _ hc ⟨c, List.prefix_refl _⟩)
  · exact h.longest longer (hcut _ hl hbegins) hbegins

/-- Text is cut at a byte that stands for itself, even if it cuts a character off. -/
theorem Decodes.append {first rest : List UInt8} {cs ds : List Char} (h : Decodes first cs) {b : UInt8}
    (hb : b.toNat < 0x80) (hrest : Decodes rest ds) :
    Decodes (first ++ b :: rest) (cs ++ .ofNat b.toNat :: ds) := by
  induction h with
  | nil =>
    have := Decodes.char (.ofNat b.toNat) hrest
    rwa [encode_one rfl hb] at this
  | char c _ ih =>
    rw [List.append_assoc]
    exact .char c ih
  | damaged hpart _ ih =>
    rw [List.append_assoc]
    exact .damaged (hpart.append hb rest) ih

/-- Such a character in the text comes from its own byte, and what comes behind the one from what comes behind the
other. -/
theorem Decodes.exists_of_small {bytes : List UInt8} {ds es : List Char} {c : Char} (hc : c.toNat < 0x80)
    (h : Decodes bytes (ds ++ c :: es)) :
    ∃ first rest, bytes = first ++ .ofNat c.toNat :: rest ∧ Decodes rest es := by
  induction ds generalizing bytes with
  | nil =>
    cases h with
    | char c h =>
      have he : utf8EncodeChar c = [.ofNat c.toNat] := by
        have := encode_one (UInt8.toNat_ofNat_of_lt' (show c.toNat < 0x100 by omega)) hc
        rwa [Char.ofNat_toNat] at this
      exact ⟨[], _, by rw [he]; rfl, h⟩
    | damaged _ _ => exact absurd hc (by decide)
  | cons d ds ih =>
    cases h with
    | char d h =>
      obtain ⟨first, rest, rfl, hrest⟩ := ih h
      exact ⟨_, rest, (List.append_assoc ..).symm, hrest⟩
    | damaged _ h =>
      obtain ⟨first, rest, rfl, hrest⟩ := ih h
      exact ⟨_, rest, (List.append_assoc ..).symm, hrest⟩

theorem toList_decode_append (first rest : List UInt8) {b : UInt8} (hb : b.toNat < 0x80) :
    (decode (first ++ b :: rest)).toList = (decode first).toList ++ .ofNat b.toNat :: (decode rest).toList :=
  (decodes_iff _ _).1 ((decodes_decode first).append hb (decodes_decode rest))

end LogTable.Text
