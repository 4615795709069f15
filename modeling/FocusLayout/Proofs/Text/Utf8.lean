import FocusLayout.Proofs.Text.Fields
import FocusLayout.Text.Utf8

/-!
# What the reader of UTF-8 finds

The well-formed sequences (`Spelled`) are just the ways in which characters are written (`Spelled.utf8EncodeChar_eq`,
`spelled_utf8EncodeChar`). A state of the reader is tied to the bytes that led to it by `Reads`: from such bytes it
comes to a character exactly by a well-formed sequence, and at a byte that cannot come next it leaves one mark and
begins anew.

What a text says is a relation of its own, `Decoded`: one character after the other, and one U+FFFD for each maximal
ill-formed subpart (`IllFormed`).

- `decoded_iff`: `decodeLossy` gives what the text says, and a text says one thing only;
- `decodeLossy_append_ascii`, `fields_decodeLossy`: a byte below 0x80 cuts a text in two that have nothing to do with
  each other, so that cutting and decoding commute;
- `decodeLossy_encode`: decoding undoes writing.
-/

namespace FocusLayout.Text.Utf8

open String (utf8EncodeChar)

/-! ## The bytes of a character -/

/-- A byte that continues a sequence. -/
def IsTail (b : UInt8) : Prop := 0x80 ≤ b.toNat ∧ b.toNat ≤ 0xBF

/-- The well-formed sequences, with the code points that they stand for. -/
inductive Spelled : List UInt8 → Nat → Prop
  | one {a : UInt8} : a.toNat ≤ 0x7F → Spelled [a] a.toNat
  | two {a b : UInt8} : 0xC2 ≤ a.toNat → a.toNat ≤ 0xDF → IsTail b →
      Spelled [a, b] ((a.toNat - 0xC0) * 64 + (b.toNat - 0x80))
  /-- Neither overlong nor a surrogate. -/
  | three {a b c : UInt8} : 0xE0 ≤ a.toNat → a.toNat ≤ 0xEF → IsTail b → (a.toNat = 0xE0 → 0xA0 ≤ b.toNat) →
      (a.toNat = 0xED → b.toNat ≤ 0x9F) → IsTail c →
      Spelled [a, b, c] (((a.toNat - 0xE0) * 64 + (b.toNat - 0x80)) * 64 + (c.toNat - 0x80))
  /-- Neither overlong nor above the last code point. -/
  | four {a b c d : UInt8} : 0xF0 ≤ a.toNat → a.toNat ≤ 0xF4 → IsTail b → (a.toNat = 0xF0 → 0x90 ≤ b.toNat) →
      (a.toNat = 0xF4 → b.toNat ≤ 0x8F) → IsTail c → IsTail d →
      Spelled [a, b, c, d]
        ((((a.toNat - 0xF0) * 64 + (b.toNat - 0x80)) * 64 + (c.toNat - 0x80)) * 64 + (d.toNat - 0x80))

theorem Spelled.isValidChar {bytes : List UInt8} {v : Nat} (h : Spelled bytes v) : v.isValidChar := by
  cases h with
  | one ha => exact .inl (by omega)
  | two ha ha' hb => exact .inl (by have := hb.2; omega)
  | @three a b c ha ha' hb hlow hhigh hc =>
    obtain ⟨hb, hb'⟩ := hb
    obtain ⟨hc, hc'⟩ := hc
    rcases Nat.lt_trichotomy a.toNat 0xED with h | h | h
    · exact .inl (by omega)
    · exact .inl (by have := hhigh h; omega)
    · exact .inr (by omega)
  | @four a b c d ha ha' hb hlow hhigh hc hd =>
    obtain ⟨hb, hb'⟩ := hb
    obtain ⟨hc, hc'⟩ := hc
    obtain ⟨hd, hd'⟩ := hd
    exact .inr (by omega)

theorem ofNat_eq_of_toNat {v : Nat} {b : UInt8} (h : v = b.toNat) : UInt8.ofNat v = b := by
  rw [h, UInt8.ofNat_toNat]

/-- A well-formed sequence is how its character is written. -/
theorem Spelled.utf8EncodeChar_eq {bytes : List UInt8} {v : Nat} (h : Spelled bytes v) :
    utf8EncodeChar (Char.ofNat v) = bytes := by
  have hval : (Char.ofNat v).val.toNat = v := by
    rw [Char.ofNat, dif_pos h.isValidChar]
    rfl
  unfold utf8EncodeChar
  simp only [hval]
  cases h with
  | one ha => rw [if_pos ha, UInt8.ofNat_toNat]
  | @two a b ha ha' hb =>
    obtain ⟨hb, hb'⟩ := hb
    rw [if_neg (by omega), if_pos (by omega)]
    simp only [List.cons.injEq, and_true]
    exact ⟨ofNat_eq_of_toNat (by omega), ofNat_eq_of_toNat (by omega)⟩
  | @three a b c ha ha' hb hlow hhigh hc =>
    obtain ⟨hb, hb'⟩ := hb
    obtain ⟨hc, hc'⟩ := hc
    rw [if_neg (by omega), if_neg (by omega), if_pos (by omega)]
    simp only [List.cons.injEq, and_true]
    exact ⟨ofNat_eq_of_toNat (by omega), ofNat_eq_of_toNat (by omega), ofNat_eq_of_toNat (by omega)⟩
  | @four a b c d ha ha' hb hlow hhigh hc hd =>
    obtain ⟨hb, hb'⟩ := hb
    obtain ⟨hc, hc'⟩ := hc
    obtain ⟨hd, hd'⟩ := hd
    rw [if_neg (by omega), if_neg (by omega), if_neg (by omega)]
    simp only [List.cons.injEq, and_true]
    exact ⟨ofNat_eq_of_toNat (by omega), ofNat_eq_of_toNat (by omega), ofNat_eq_of_toNat (by omega),
      ofNat_eq_of_toNat (by omega)⟩

theorem toNat_ofNat_of_lt {v : Nat} (h : v < 256) : (UInt8.ofNat v).toNat = v := by
  rw [UInt8.toNat_ofNat']
  exact Nat.mod_eq_of_lt h

theorem Spelled.of_eq {bytes : List UInt8} {v w : Nat} (h : Spelled bytes v) (hv : v = w) : Spelled bytes w :=
  hv ▸ h

/-- Every character is written as a well-formed sequence. -/
theorem spelled_utf8EncodeChar (c : Char) : Spelled (utf8EncodeChar c) c.toNat := by
  have hvalid : c.toNat.isValidChar := c.valid
  rw [← Char.toNat_val] at hvalid ⊢
  unfold utf8EncodeChar
  generalize c.val.toNat = v at hvalid ⊢
  have hv : v < 0x110000 ∧ (v < 0xD800 ∨ 0xDFFF < v) := by omega
  have hlast : (UInt8.ofNat (v % 64 + 128)).toNat = v % 64 + 128 := toNat_ofNat_of_lt (by omega)
  have hthird : (UInt8.ofNat (v / 64 % 64 + 128)).toNat = v / 64 % 64 + 128 := toNat_ofNat_of_lt (by omega)
  have hsecond : (UInt8.ofNat (v / 4096 % 64 + 128)).toNat = v / 4096 % 64 + 128 := toNat_ofNat_of_lt (by omega)
  have htail : IsTail (UInt8.ofNat (v % 64 + 128)) := ⟨by omega, by omega⟩
  dsimp only
  split
  · have hone : (UInt8.ofNat v).toNat = v := toNat_ofNat_of_lt (by omega)
    exact (Spelled.one (by omega)).of_eq hone
  split
  · have hfirst : (UInt8.ofNat (v / 64 % 32 + 192)).toNat = v / 64 % 32 + 192 := toNat_ofNat_of_lt (by omega)
    exact (Spelled.two (by omega) (by omega) htail).of_eq (by omega)
  split
  · have hfirst : (UInt8.ofNat (v / 4096 % 16 + 224)).toNat = v / 4096 % 16 + 224 := toNat_ofNat_of_lt (by omega)
    exact (Spelled.three (by omega) (by omega) ⟨by omega, by omega⟩ (by omega) (by omega) htail).of_eq (by omega)
  · have hfirst : (UInt8.ofNat (v / 262144 % 8 + 240)).toNat = v / 262144 % 8 + 240 := toNat_ofNat_of_lt (by omega)
    exact (Spelled.four (by omega) (by omega) ⟨by omega, by omega⟩ (by omega) (by omega) ⟨by omega, by omega⟩
      htail).of_eq (by omega)

/-! ## The states of the reader -/

section States

variable {a b : UInt8} {begun rest : List UInt8} {p : Pending}

/-- What a first byte promises, by the length of its sequence. -/
theorem lead_eq (b : UInt8) :
    lead b =
      if 0xC2 ≤ b.toNat ∧ b.toNat ≤ 0xDF then some ⟨1, 0x80, 0xBF, b.toNat - 0xC0⟩
      else if 0xE0 ≤ b.toNat ∧ b.toNat ≤ 0xEF then
        some ⟨2, if b.toNat = 0xE0 then 0xA0 else 0x80, if b.toNat = 0xED then 0x9F else 0xBF, b.toNat - 0xE0⟩
      else if 0xF0 ≤ b.toNat ∧ b.toNat ≤ 0xF4 then
        some ⟨3, if b.toNat = 0xF0 then 0x90 else 0x80, if b.toNat = 0xF4 then 0x8F else 0xBF, b.toNat - 0xF0⟩
      else none := by
  have he0 : b = 0xE0 ↔ b.toNat = 0xE0 := UInt8.toNat_inj.symm
  have hed : b = 0xED ↔ b.toNat = 0xED := UInt8.toNat_inj.symm
  have hf0 : b = 0xF0 ↔ b.toNat = 0xF0 := UInt8.toNat_inj.symm
  have hf4 : b = 0xF4 ↔ b.toNat = 0xF4 := UInt8.toNat_inj.symm
  simp only [lead, UInt8.le_iff_toNat_le]
  grind

/-- The three kinds of first bytes. -/
theorem lead_cases (h : lead a = some p) :
    (0xC2 ≤ a.toNat ∧ a.toNat ≤ 0xDF ∧ p.missing = 1 ∧ p.bits = a.toNat - 0xC0 ∧ p.low.toNat = 0x80 ∧
      p.high.toNat = 0xBF) ∨
    (0xE0 ≤ a.toNat ∧ a.toNat ≤ 0xEF ∧ p.missing = 2 ∧ p.bits = a.toNat - 0xE0 ∧
      p.low.toNat = (if a.toNat = 0xE0 then 0xA0 else 0x80) ∧
      p.high.toNat = if a.toNat = 0xED then 0x9F else 0xBF) ∨
    (0xF0 ≤ a.toNat ∧ a.toNat ≤ 0xF4 ∧ p.missing = 3 ∧ p.bits = a.toNat - 0xF0 ∧
      p.low.toNat = (if a.toNat = 0xF0 then 0x90 else 0x80) ∧
      p.high.toNat = if a.toNat = 0xF4 then 0x8F else 0xBF) := by
  rw [lead_eq] at h
  split at h <;> rename_i ha
  · cases h
    exact .inl ⟨ha.1, ha.2, rfl, rfl, rfl, rfl⟩
  split at h <;> rename_i ha
  · cases h
    exact .inr (.inl ⟨ha.1, ha.2, rfl, rfl, apply_ite UInt8.toNat .., apply_ite UInt8.toNat ..⟩)
  split at h <;> rename_i ha
  · cases h
    exact .inr (.inr ⟨ha.1, ha.2, rfl, rfl, apply_ite UInt8.toNat .., apply_ite UInt8.toNat ..⟩)
  · cases h

/-- The byte can come next in a sequence that has begun. -/
def Pending.Admits (p : Pending) (b : UInt8) : Prop := p.low.toNat ≤ b.toNat ∧ b.toNat ≤ p.high.toNat

/-- The bits of a sequence with one more byte. -/
def Pending.bitsWith (p : Pending) (b : UInt8) : Nat := p.bits * 64 + (b.toNat - 0x80)

/-- A sequence that has begun, after one more byte. -/
def Pending.next (p : Pending) (b : UInt8) : Pending := ⟨p.missing - 1, 0x80, 0xBF, p.bitsWith b⟩

/-- The state of the reader after the bytes of a sequence that is not complete. -/
inductive Reads : List UInt8 → Pending → Prop
  | first {a : UInt8} {p : Pending} : lead a = some p → Reads [a] p
  | more {begun : List UInt8} {p : Pending} {b : UInt8} : Reads begun p → p.Admits b → 1 < p.missing →
      Reads (begun ++ [b]) (p.next b)

theorem begin_ascii (h : b.toNat ≤ 0x7F) : begin b = ([some (Char.ofNat b.toNat)], none) := by
  unfold begin
  rw [if_pos (UInt8.lt_iff_toNat_lt.mpr (Nat.lt_succ_of_le h))]

theorem begin_lead (h : lead b = some p) : begin b = ([], some p) := by
  have hb : ¬b < 0x80 := by
    intro hb
    have hlt : b.toNat < 0x80 := UInt8.lt_iff_toNat_lt.mp hb
    rw [lead_eq, if_neg (by omega), if_neg (by omega), if_neg (by omega)] at h
    cases h
  unfold begin
  rw [if_neg hb, h]

theorem begin_stray (h : 0x7F < b.toNat) (hlead : lead b = none) : begin b = ([none], none) := by
  unfold begin
  rw [if_neg (fun hb => Nat.not_le_of_lt h (Nat.le_of_lt_succ (UInt8.lt_iff_toNat_lt.mp hb))), hlead]

theorem feed_none : feed none b = begin b := rfl

theorem admits_iff : p.Admits b ↔ (p.low ≤ b && b ≤ p.high) = true := by
  simp [Pending.Admits, UInt8.le_iff_toNat_le]

theorem feed_last (h : p.Admits b) (hmissing : p.missing ≤ 1) :
    feed (some p) b = ([some (Char.ofNat (p.bitsWith b))], none) := by
  rw [admits_iff] at h
  simp only [feed, h, hmissing, if_true]
  rfl

theorem feed_more (h : p.Admits b) (hmissing : 1 < p.missing) : feed (some p) b = ([], some (p.next b)) := by
  rw [admits_iff] at h
  simp only [feed, h, Nat.not_le.mpr hmissing, if_true, if_false]
  rfl

theorem feed_broken (h : ¬p.Admits b) : feed (some p) b = (none :: (begin b).1, (begin b).2) := by
  rw [admits_iff, Bool.not_eq_true] at h
  simp only [feed, h]
  rfl

theorem marksFrom_cons (state : Option Pending) (b : UInt8) (rest : List UInt8) :
    marksFrom state (b :: rest) = (feed state b).1 ++ marksFrom (feed state b).2 rest := rfl

/-- Where a sequence is broken off there is a mark, and reading begins anew. -/
theorem marksFrom_broken (h : ∀ b ∈ rest.head?, ¬p.Admits b) :
    marksFrom (some p) rest = none :: marksFrom none rest := by
  cases rest with
  | nil => rfl
  | cons b rest =>
    rw [marksFrom_cons, feed_broken (h b rfl), marksFrom_cons, feed_none]
    rfl

namespace Reads

/-- The reader comes to the state silently. -/
theorem marksFrom_eq (h : Reads begun p) (rest : List UInt8) :
    marksFrom none (begun ++ rest) = marksFrom (some p) rest := by
  induction h generalizing rest with
  | first ha =>
    rw [List.singleton_append, marksFrom_cons, feed_none, begin_lead ha]
    rfl
  | more _ hb hmissing ih =>
    rw [List.append_assoc, List.singleton_append, ih, marksFrom_cons, feed_more hb hmissing]
    rfl

/-- No sequence has more than four bytes. -/
theorem length_add_missing_le (h : Reads begun p) : begun.length + p.missing ≤ 4 ∧ 0 < begun.length := by
  induction h with
  | first ha =>
    have := lead_cases ha
    rw [List.length_singleton]
    omega
  | more _ _ hmissing ih =>
    simp only [List.length_append, List.length_singleton, Pending.next]
    omega

/-- There is a byte that can come next, and only tails can. -/
theorem tails (h : Reads begun p) : 0x80 ≤ p.low.toNat ∧ p.low.toNat ≤ p.high.toNat ∧ p.high.toNat ≤ 0xBF := by
  cases h with
  | first ha =>
    have := lead_cases ha
    grind
  | more => exact ⟨Nat.le_refl _, show 0x80 ≤ 0xBF by decide, Nat.le_refl _⟩

theorem isTail (h : Reads begun p) (hb : p.Admits b) : IsTail b := by
  have := h.tails
  unfold Pending.Admits at hb
  exact ⟨by omega, by omega⟩

/-- A sequence that lacks one byte is well-formed with any byte that can come next. -/
theorem spelled (h : Reads begun p) (hb : p.Admits b) (hmissing : p.missing ≤ 1) :
    Spelled (begun ++ [b]) (p.bitsWith b) := by
  have htail : IsTail b := h.isTail hb
  cases h with
  | @first a p ha =>
    have hcases := lead_cases ha
    exact (Spelled.two (a := a) (by omega) (by omega) htail).of_eq (by unfold Pending.bitsWith; omega)
  | @more begun q b' h hb' hmore =>
    have htail' : IsTail b' := h.isTail hb'
    replace hmissing : q.missing - 1 ≤ 1 := hmissing
    cases h with
    | @first a q ha =>
      have hcases := lead_cases ha
      unfold Pending.Admits at hb'
      have hbits : (q.next b').bitsWith b = (q.bits * 64 + (b'.toNat - 0x80)) * 64 + (b.toNat - 0x80) := rfl
      exact (Spelled.three (by omega) (by omega) htail' (by grind) (by grind) htail).of_eq (by omega)
    | @more begun r c h hc hmore' =>
      have htail'' : IsTail c := h.isTail hc
      replace hmissing : r.missing - 1 - 1 ≤ 1 := hmissing
      replace hmore : 1 < r.missing - 1 := hmore
      cases h with
      | @first a r ha =>
        have hcases := lead_cases ha
        unfold Pending.Admits at hc
        have hbits : ((r.next c).next b').bitsWith b =
            ((r.bits * 64 + (c.toNat - 0x80)) * 64 + (b'.toNat - 0x80)) * 64 + (b.toNat - 0x80) := rfl
        exact (Spelled.four (by omega) (by omega) htail'' (by grind) (by grind) htail' htail).of_eq (by omega)
      | @more begun t d h hd hmore'' =>
        have := h.length_add_missing_le
        replace hmore : 1 < t.missing - 1 - 1 := hmore
        omega

/-- The last byte of a sequence makes it a character. -/
theorem marksFrom_last (h : Reads begun p) (hb : p.Admits b) (hmissing : p.missing ≤ 1) (rest : List UInt8) :
    marksFrom none (begun ++ b :: rest) = some (Char.ofNat (p.bitsWith b)) :: marksFrom none rest := by
  rw [h.marksFrom_eq, marksFrom_cons, feed_last hb hmissing]
  rfl

end Reads

theorem exists_lead (h : 0xC2 ≤ a.toNat) (h' : a.toNat ≤ 0xF4) : ∃ p, lead a = some p := by
  rw [lead_eq]
  split
  · exact ⟨_, rfl⟩
  split
  · exact ⟨_, rfl⟩
  rw [if_pos (by omega)]
  exact ⟨_, rfl⟩

/-- A well-formed sequence is a single byte, or lacked just its last byte before. -/
theorem Spelled.reads {bytes : List UInt8} {v : Nat} (h : Spelled bytes v) :
    (∃ a : UInt8, a.toNat ≤ 0x7F ∧ bytes = [a] ∧ v = a.toNat) ∨
      ∃ begun p b, Reads begun p ∧ p.Admits b ∧ p.missing ≤ 1 ∧ bytes = begun ++ [b] ∧ p.bitsWith b = v := by
  cases h with
  | one ha => exact .inl ⟨_, ha, rfl, rfl⟩
  | @two a b ha ha' hb =>
    obtain ⟨p, hp⟩ := exists_lead ha (by omega)
    have hcases := lead_cases hp
    have hadmits : p.Admits b := by unfold IsTail at hb; unfold Pending.Admits; omega
    have hbits : p.bitsWith b = p.bits * 64 + (b.toNat - 0x80) := rfl
    exact .inr ⟨[a], p, b, .first hp, hadmits, by omega, rfl, by omega⟩
  | @three a b c ha ha' hb hlow hhigh hc =>
    obtain ⟨p, hp⟩ := exists_lead (a := a) (by omega) (by omega)
    have hcases := lead_cases hp
    have hadmits : p.Admits b := by unfold IsTail at hb; unfold Pending.Admits; grind
    have hbits : (p.next b).bitsWith c = (p.bits * 64 + (b.toNat - 0x80)) * 64 + (c.toNat - 0x80) := rfl
    have hmissing : (p.next b).missing = p.missing - 1 := rfl
    exact .inr ⟨[a, b], p.next b, c, (Reads.first hp).more hadmits (by omega), hc, by omega, rfl, by omega⟩
  | @four a b c d ha ha' hb hlow hhigh hc hd =>
    obtain ⟨p, hp⟩ := exists_lead (a := a) (by omega) (by omega)
    have hcases := lead_cases hp
    have hadmits : p.Admits b := by unfold IsTail at hb; unfold Pending.Admits; grind
    have hbits : ((p.next b).next c).bitsWith d =
        ((p.bits * 64 + (b.toNat - 0x80)) * 64 + (c.toNat - 0x80)) * 64 + (d.toNat - 0x80) := rfl
    have hmissing : (p.next b).missing = p.missing - 1 := rfl
    have hmissing' : ((p.next b).next c).missing = p.missing - 1 - 1 := rfl
    exact .inr ⟨[a, b, c], (p.next b).next c, d, ((Reads.first hp).more hadmits (by omega)).more hc (by omega), hd,
      by omega, rfl, by omega⟩

/-- The reader finds the character of a well-formed sequence. -/
theorem Spelled.marksFrom_append {bytes : List UInt8} {v : Nat} (h : Spelled bytes v) (rest : List UInt8) :
    marksFrom none (bytes ++ rest) = some (Char.ofNat v) :: marksFrom none rest := by
  rcases h.reads with ⟨a, ha, rfl, rfl⟩ | ⟨begun, p, b, hreads, hb, hmissing, rfl, rfl⟩
  · rw [List.singleton_append, marksFrom_cons, feed_none, begin_ascii ha]
    rfl
  · rw [List.append_assoc]
    exact hreads.marksFrom_last hb hmissing rest

/-- **The reader finds what was written.** -/
theorem marksFrom_utf8EncodeChar (c : Char) (rest : List UInt8) :
    marksFrom none (utf8EncodeChar c ++ rest) = some c :: marksFrom none rest := by
  rw [(spelled_utf8EncodeChar c).marksFrom_append, Char.ofNat_toNat]

theorem utf8EncodeChar_injective : Function.Injective utf8EncodeChar := by
  intro c d h
  have hmarks : some c :: marksFrom none [] = some d :: marksFrom none [] := by
    rw [← marksFrom_utf8EncodeChar, ← marksFrom_utf8EncodeChar, h]
  exact Option.some.inj (List.cons.inj hmarks).1

theorem decodeLossy_utf8EncodeChar (c : Char) (rest : List UInt8) :
    decodeLossy (utf8EncodeChar c ++ rest) = c :: decodeLossy rest := by
  rw [decodeLossy, marks, marksFrom_utf8EncodeChar]
  rfl

end States

/-! ## Maximal ill-formed subparts -/

/-- The bytes are the beginning of a character. -/
def Begins (bytes : List UInt8) : Prop := ∃ c, bytes <+: utf8EncodeChar c

/-- No character stands at the beginning of the text, and `bad` is the longest part there that is the beginning of a
character or a single byte. -/
structure IllFormed (bad rest : List UInt8) : Prop where
  ne_nil : bad ≠ []
  no_character : ∀ c, ¬utf8EncodeChar c <+: bad ++ rest
  subpart : bad.length = 1 ∨ Begins bad
  maximal : ∀ longer, longer <+: bad ++ rest → Begins longer → longer.length ≤ bad.length

/-- **A text and what it says**: character after character, with one U+FFFD for each maximal ill-formed subpart. -/
inductive Decoded : List UInt8 → List Char → Prop
  | nil : Decoded [] []
  | character (c : Char) {rest : List UInt8} {text : List Char} :
      Decoded rest text → Decoded (utf8EncodeChar c ++ rest) (c :: text)
  | illFormed {bad rest : List UInt8} {text : List Char} :
      IllFormed bad rest → Decoded rest text → Decoded (bad ++ rest) ('\uFFFD' :: text)

section Subparts

variable {b : UInt8} {begun bad bad' rest rest' bytes : List UInt8} {p : Pending} {c : Char} {text : List Char}

theorem utf8EncodeChar_ne_nil (c : Char) : utf8EncodeChar c ≠ [] := by
  have h := spelled_utf8EncodeChar c
  intro hnil
  rw [hnil] at h
  cases h

theorem Reads.admits_low (h : Reads begun p) : p.Admits p.low := ⟨Nat.le_refl _, h.tails.2.1⟩

theorem Reads.begins_of_last (h : Reads begun p) (hmissing : p.missing ≤ 1) : Begins begun :=
  ⟨_, (h.spelled h.admits_low hmissing).utf8EncodeChar_eq ▸ List.prefix_append begun [p.low]⟩

/-- Every sequence that the reader has begun can become a character. -/
theorem Reads.begins (h : Reads begun p) : Begins begun := by
  induction hn : p.missing generalizing begun p with
  | zero => exact h.begins_of_last (by omega)
  | succ n ih =>
    by_cases hmissing : p.missing ≤ 1
    · exact h.begins_of_last hmissing
    · have hmore : Reads (begun ++ [p.low]) (p.next p.low) := h.more h.admits_low (Nat.lt_of_not_le hmissing)
      obtain ⟨c, hc⟩ := ih hmore (by simp [Pending.next, hn])
      exact ⟨c, (List.prefix_append ..).trans hc⟩

/-- Where the reader leaves a mark no character stands. -/
theorem not_character_of_mark (h : (marksFrom none bytes).head? = some none) (c : Char) :
    ¬utf8EncodeChar c <+: bytes := by
  rintro ⟨after, rfl⟩
  rw [marksFrom_utf8EncodeChar] at h
  cases h

/-- What the reader gives up at the next byte, whatever comes after it, is a maximal subpart. -/
theorem illFormed_of_mark (hne : bad ≠ []) (hpart : bad.length = 1 ∨ Begins bad)
    (h : ∀ more : List UInt8, more.head? = rest.head? → (marksFrom none (bad ++ more)).head? = some none) :
    IllFormed bad rest where
  ne_nil := hne
  no_character := not_character_of_mark (h rest rfl)
  subpart := hpart
  maximal longer hlonger hbegins := by
    refine Nat.le_of_not_lt fun hlt => ?_
    obtain ⟨more, rfl⟩ := List.prefix_of_prefix_length_le (List.prefix_append bad rest) hlonger (Nat.le_of_lt hlt)
    obtain ⟨after, rfl⟩ := (List.prefix_append_right_inj bad).mp hlonger
    obtain ⟨c, after', hc⟩ := hbegins
    have hhead : (more ++ after').head? = (more ++ after).head? := by
      cases more with
      | nil => simp at hlt
      | cons b more => rfl
    have hchar : utf8EncodeChar c = bad ++ (more ++ after') := by rw [← hc, List.append_assoc]
    exact not_character_of_mark (h _ hhead) c (hchar ▸ List.prefix_rfl)

/-- The maximal subpart at the beginning of a text is one. -/
theorem IllFormed.length_le (h : IllFormed bad rest) (h' : IllFormed bad' rest') (heq : bad ++ rest = bad' ++ rest') :
    bad.length ≤ bad'.length := by
  rcases h.subpart with hone | hbegins
  · rw [hone]
    exact List.length_pos_iff.mpr h'.ne_nil
  · exact h'.maximal bad (heq ▸ List.prefix_append bad rest) hbegins

theorem IllFormed.unique (h : IllFormed bad rest) (h' : IllFormed bad' rest') (heq : bad ++ rest = bad' ++ rest') :
    bad = bad' ∧ rest = rest' :=
  List.append_inj heq (Nat.le_antisymm (h.length_le h' heq) (h'.length_le h heq.symm))

/-- What the reader makes of the beginning of a text: a character, or a mark for a maximal subpart. -/
inductive Start : List UInt8 → Prop
  | character (c : Char) (rest : List UInt8) : Start (utf8EncodeChar c ++ rest)
  | illFormed {bad rest : List UInt8} : IllFormed bad rest →
      marksFrom none (bad ++ rest) = none :: marksFrom none rest → Start (bad ++ rest)

theorem start_of_broken (hreads : Reads begun p) (h : ∀ b ∈ rest.head?, ¬p.Admits b) : Start (begun ++ rest) := by
  have hne : begun ≠ [] := List.length_pos_iff.mp hreads.length_add_missing_le.2
  refine .illFormed (illFormed_of_mark hne (.inr hreads.begins) fun more hmore => ?_) ?_
  · rw [hreads.marksFrom_eq, marksFrom_broken (hmore ▸ h)]
    rfl
  · rw [hreads.marksFrom_eq, marksFrom_broken h]

theorem Reads.start (h : Reads begun p) (rest : List UInt8) : Start (begun ++ rest) := by
  induction rest generalizing begun p with
  | nil => exact start_of_broken h fun b hb => nomatch hb
  | cons b rest ih =>
    by_cases hb : p.Admits b
    · rw [List.append_cons]
      by_cases hmissing : p.missing ≤ 1
      · rw [← (h.spelled hb hmissing).utf8EncodeChar_eq]
        exact .character _ _
      · exact ih (h.more hb (Nat.lt_of_not_le hmissing))
    · exact start_of_broken h fun b' hb' => Option.some.inj hb' ▸ hb

theorem start_cons (b : UInt8) (rest : List UInt8) : Start (b :: rest) := by
  rw [← List.singleton_append]
  by_cases hascii : b.toNat ≤ 0x7F
  · rw [← (Spelled.one hascii).utf8EncodeChar_eq]
    exact .character _ _
  · cases hlead : lead b with
    | some p => exact (Reads.first hlead).start rest
    | none =>
      have hmark (more : List UInt8) : marksFrom none ([b] ++ more) = none :: marksFrom none more := by
        rw [List.singleton_append, marksFrom_cons, feed_none, begin_stray (Nat.lt_of_not_le hascii) hlead]
        rfl
      have hhead (more : List UInt8) : (marksFrom none ([b] ++ more)).head? = some none := by
        rw [hmark]
        rfl
      exact .illFormed (illFormed_of_mark (List.cons_ne_nil _ _) (.inl rfl) fun more _ => hhead more) (hmark rest)

theorem IllFormed.decodeLossy_append (h : IllFormed bad rest) :
    decodeLossy (bad ++ rest) = '\uFFFD' :: decodeLossy rest := by
  obtain ⟨b, more, hcons⟩ := List.exists_cons_of_ne_nil (List.append_ne_nil_of_left_ne_nil h.ne_nil rest)
  have hstart : Start (bad ++ rest) := hcons ▸ start_cons b more
  generalize hbytes : bad ++ rest = bytes at hstart
  cases hstart with
  | character c after => exact absurd (hbytes ▸ List.prefix_append _ after) (h.no_character c)
  | illFormed h' hmark =>
    obtain ⟨rfl, rfl⟩ := h.unique h' hbytes
    rw [decodeLossy, marks, hmark]
    rfl

/-- **Decoding gives what the text says**, and a text says one thing only. -/
theorem decoded_iff : Decoded bytes text ↔ decodeLossy bytes = text := by
  constructor
  · intro h
    induction h with
    | nil => rfl
    | character c _ ih => rw [decodeLossy_utf8EncodeChar, ih]
    | illFormed h _ ih => rw [h.decodeLossy_append, ih]
  · rintro rfl
    induction hn : bytes.length using Nat.strongRecOn generalizing bytes with
    | ind n ih =>
      cases bytes with
      | nil => exact .nil
      | cons b rest =>
        have hstart := start_cons b rest
        generalize b :: rest = bytes at hn hstart
        cases hstart with
        | character c after =>
          have hpos := List.length_pos_iff.mpr (utf8EncodeChar_ne_nil c)
          rw [List.length_append] at hn
          rw [decodeLossy_utf8EncodeChar]
          exact .character c (ih _ (by omega) rfl)
        | @illFormed bad after h =>
          have hpos := List.length_pos_iff.mpr h.ne_nil
          rw [List.length_append] at hn
          rw [h.decodeLossy_append]
          exact .illFormed h (ih _ (by omega) rfl)

theorem decoded_decodeLossy (bytes : List UInt8) : Decoded bytes (decodeLossy bytes) := decoded_iff.mpr rfl

end Subparts

/-! ## Bytes that are characters -/

section Ascii

variable {b : UInt8} {bytes part l bad rest : List UInt8} {v : Nat}

/-- In a well-formed sequence such a byte stands alone. -/
theorem Spelled.eq_singleton (h : Spelled bytes v) (hb : b.toNat ≤ 0x7F) (hmem : b ∈ bytes) : bytes = [b] := by
  cases h with
  | one => rw [List.mem_singleton.mp hmem]
  | two _ _ hb' =>
    unfold IsTail at hb'
    simp only [List.mem_cons, List.not_mem_nil, or_false] at hmem
    rcases hmem with rfl | rfl <;> omega
  | three _ _ hb' _ _ hc =>
    unfold IsTail at hb' hc
    simp only [List.mem_cons, List.not_mem_nil, or_false] at hmem
    rcases hmem with rfl | rfl | rfl <;> omega
  | four _ _ hb' _ _ hc hd =>
    unfold IsTail at hb' hc hd
    simp only [List.mem_cons, List.not_mem_nil, or_false] at hmem
    rcases hmem with rfl | rfl | rfl | rfl <;> omega

theorem utf8EncodeChar_ofNat_toNat (hb : b.toNat ≤ 0x7F) : utf8EncodeChar (Char.ofNat b.toNat) = [b] :=
  (Spelled.one hb).utf8EncodeChar_eq

/-- The beginning of a character does not go on over such a byte. -/
theorem prefix_of_prefix_append_ascii (hb : b.toNat ≤ 0x7F) (hne : l ≠ []) (hpart : part <+: l ++ b :: rest)
    (hbegins : Begins part) : part <+: l := by
  rcases Nat.lt_or_ge l.length part.length with hlt | hle
  · -- a longer part has the byte in it, and so is the byte alone
    obtain ⟨more, rfl⟩ := List.prefix_of_prefix_length_le (List.prefix_append l _) hpart (Nat.le_of_lt hlt)
    obtain ⟨after, hafter⟩ := (List.prefix_append_right_inj l).mp hpart
    obtain ⟨c, after', hc⟩ := hbegins
    have hmem : b ∈ utf8EncodeChar c := by
      cases more with
      | nil => simp at hlt
      | cons b' more =>
        obtain ⟨rfl, _⟩ := List.cons.inj hafter
        rw [← hc]
        simp
    have halone : utf8EncodeChar c = [b] := (spelled_utf8EncodeChar c).eq_singleton hb hmem
    have hlength : (l ++ more ++ after').length = 1 := by rw [hc, halone, List.length_singleton]
    have hpos : 0 < l.length := List.length_pos_iff.mpr hne
    simp only [List.length_append] at hlength hlt
    omega
  · exact List.prefix_of_prefix_length_le hpart (List.prefix_append l _) hle

theorem IllFormed.append_ascii (h : IllFormed bad rest) (hb : b.toNat ≤ 0x7F) (more : List UInt8) :
    IllFormed bad (rest ++ b :: more) := by
  have hne : bad ++ rest ≠ [] := List.append_ne_nil_of_left_ne_nil h.ne_nil rest
  have hpart {part : List UInt8} (hp : part <+: bad ++ (rest ++ b :: more)) (hbegins : Begins part) :
      part <+: bad ++ rest := by
    rw [← List.append_assoc] at hp
    exact prefix_of_prefix_append_ascii hb hne hp hbegins
  exact
    { ne_nil := h.ne_nil
      no_character := fun c hc => h.no_character c (hpart hc ⟨c, List.prefix_rfl⟩)
      subpart := h.subpart
      maximal := fun longer hlonger hbegins => h.maximal longer (hpart hlonger hbegins) hbegins }

/-- **At such a byte decoding can be cut**: what stands before it and what stands after it do not touch. -/
theorem decodeLossy_append_ascii (hb : b.toNat ≤ 0x7F) (l r : List UInt8) :
    decodeLossy (l ++ b :: r) = decodeLossy l ++ Char.ofNat b.toNat :: decodeLossy r := by
  have h := decoded_decodeLossy l
  generalize decodeLossy l = text at h
  induction h with
  | nil =>
    rw [List.nil_append, List.nil_append, ← List.singleton_append, ← utf8EncodeChar_ofNat_toNat hb,
      decodeLossy_utf8EncodeChar]
  | character c _ ih => rw [List.append_assoc, decodeLossy_utf8EncodeChar, ih, List.cons_append]
  | illFormed h _ ih => rw [List.append_assoc, (h.append_ascii hb r).decodeLossy_append, ih, List.cons_append]

/-- Decoding makes no such character that is not a byte of the text. -/
theorem mem_of_mem_decodeLossy (hb : b.toNat ≤ 0x7F) (h : Char.ofNat b.toNat ∈ decodeLossy bytes) : b ∈ bytes := by
  have hdecoded := decoded_decodeLossy bytes
  generalize decodeLossy bytes = text at h hdecoded
  induction hdecoded with
  | nil => cases h
  | character c _ ih =>
    rcases List.mem_cons.mp h with rfl | h
    · rw [utf8EncodeChar_ofNat_toNat hb]
      exact List.mem_append_left _ List.mem_cons_self
    · exact List.mem_append_right _ (ih h)
  | illFormed _ _ ih =>
    rcases List.mem_cons.mp h with h | h
    · have hvalid : b.toNat.isValidChar := .inl (by omega)
      have hnat : b.toNat = 0xFFFD := by
        rw [Char.ofNat, dif_pos hvalid] at h
        exact congrArg Char.toNat h
      omega
    · exact List.mem_append_right _ (ih h)

/-- **Cutting and decoding commute**: no ill-formed sequence swallows or makes a separator. -/
theorem fields_decodeLossy (hb : b.toNat ≤ 0x7F) (bytes : List UInt8) :
    fields (· == Char.ofNat b.toNat) (decodeLossy bytes) = (fields (· == b) bytes).map decodeLossy := by
  induction hn : bytes.length using Nat.strongRecOn generalizing bytes with
  | ind n ih =>
    by_cases hmem : b ∈ bytes
    · obtain ⟨l, r, rfl⟩ := List.append_of_mem hmem
      rw [List.length_append, List.length_cons] at hn
      rw [decodeLossy_append_ascii hb, fields_append_cons_self, fields_append_cons_self, List.map_append,
        ih l.length (by omega) l rfl, ih r.length (by omega) r rfl]
    · have hbytes : ∀ a ∈ bytes, (a == b) = false := fun a ha => beq_false_of_ne fun h => hmem (h ▸ ha)
      have htext : ∀ c ∈ decodeLossy bytes, (c == Char.ofNat b.toNat) = false :=
        fun c hc => beq_false_of_ne fun h => hmem (mem_of_mem_decodeLossy hb (h ▸ hc))
      rw [fields_of_forall hbytes, fields_of_forall htext, List.map_singleton]

end Ascii

/-! ## Writing a string -/

section Encode

variable {b : UInt8} {s : String}

theorem toList_loop (bytes : ByteArray) (i : Nat) (found : List UInt8) :
    ByteArray.toList.loop bytes i found = found.reverse ++ bytes.data.toList.drop i := by
  induction i, found using ByteArray.toList.loop.induct bytes with
  | case1 i found h ih =>
    have hi : i < bytes.data.toList.length := h
    have hget : bytes.get! i = bytes.data.toList[i] := by
      cases bytes
      exact getElem!_pos _ i h
    rw [ByteArray.toList.loop, if_pos h, ih, hget, List.drop_eq_getElem_cons hi, List.reverse_cons, List.append_assoc]
    rfl
  | case2 i found h =>
    have hi : bytes.data.toList.length ≤ i := Nat.le_of_not_lt h
    rw [ByteArray.toList.loop, if_neg h, List.drop_eq_nil_of_le hi, List.append_nil]

/-- A string is written character by character. -/
theorem encode_eq (s : String) : encode s = s.toList.flatMap utf8EncodeChar := by
  have hbytes : s.toUTF8 = (s.toList.flatMap utf8EncodeChar).toByteArray := String.utf8Encode_toList.symm
  rw [encode, ByteArray.toList, toList_loop, List.reverse_nil, List.nil_append, List.drop_zero, hbytes,
    List.data_toByteArray]

theorem decodeLossy_flatMap (cs : List Char) : decodeLossy (cs.flatMap utf8EncodeChar) = cs := by
  induction cs with
  | nil => rfl
  | cons c cs ih => rw [List.flatMap_cons, decodeLossy_utf8EncodeChar, ih]

/-- **Decoding undoes writing.** -/
theorem decodeLossy_encode (s : String) : decodeLossy (encode s) = s.toList := by
  rw [encode_eq, decodeLossy_flatMap]

theorem mem_of_mem_encode (hb : b.toNat ≤ 0x7F) (h : b ∈ encode s) : Char.ofNat b.toNat ∈ s.toList := by
  rw [encode_eq] at h
  obtain ⟨c, hc, hmem⟩ := List.mem_flatMap.mp h
  have halone : utf8EncodeChar c = utf8EncodeChar (Char.ofNat b.toNat) := by
    rw [(spelled_utf8EncodeChar c).eq_singleton hb hmem, utf8EncodeChar_ofNat_toNat hb]
  exact utf8EncodeChar_injective halone ▸ hc

end Encode

end FocusLayout.Text.Utf8
