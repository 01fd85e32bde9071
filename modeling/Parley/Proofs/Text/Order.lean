/-
# The order of texts and the order of their bytes

Bags compare their keys character by character, frames are ordered by the bytes of the
keys.  Both orders are the same (`Text.utf8_lt_utf8`): the first character in which two
texts differ decides, and UTF-8 gives the smaller character the smaller byte at the first
place where the two sequences differ.  What stands behind that place does not matter, so
the comparison of two characters carries over to the texts that begin with them.
-/

import Parley.Text.Utf8

namespace Parley.Text

variable {as bs : List UInt8}

/-! ### The first place that differs -/

/-- Two lists of bytes differ at a place that both of them have, and at the first such
place the first list has the smaller byte. -/
def Precedes (as bs : List UInt8) : Prop :=
  ∃ same a as' b bs', as = same ++ a :: as' ∧ bs = same ++ b :: bs' ∧ a < b

/-- What precedes at some place does so whatever follows. -/
theorem Precedes.append (h : Precedes as bs) (after after' : List UInt8) :
    Precedes (as ++ after) (bs ++ after') := by
  obtain ⟨same, a, as', b, bs', rfl, rfl, hlt⟩ := h
  exact ⟨same, a, as' ++ after, b, bs' ++ after', by simp, by simp, hlt⟩

/-- What precedes is smaller. -/
theorem Precedes.lt (h : Precedes as bs) : as < bs := by
  obtain ⟨same, a, as', b, bs', rfl, rfl, hlt⟩ := h
  induction same with
  | nil => exact List.cons_lt_cons_iff.2 (.inl hlt)
  | cons x same ih => exact List.cons_lt_cons_iff.2 (.inr ⟨rfl, ih⟩)

/-- The first byte decides when it is smaller, and otherwise the rest does. -/
theorem precedes_cons {x y : Nat} (hle : x ≤ y) (hy : y < 256) (hrest : x = y → Precedes as bs) :
    Precedes (UInt8.ofNat x :: as) (UInt8.ofNat y :: bs) := by
  rcases Nat.lt_or_eq_of_le hle with hlt | rfl
  · refine ⟨[], _, as, _, bs, rfl, rfl, ?_⟩
    rw [UInt8.lt_iff_toNat_lt, UInt8.toNat_ofNat', UInt8.toNat_ofNat']
    omega
  · obtain ⟨same, a, as', b, bs', rfl, rfl, hlt⟩ := hrest rfl
    exact ⟨_ :: same, a, as', b, bs', rfl, rfl, hlt⟩

/-- Bytes precede as their numbers do. -/
theorem precedes_of_lt {x y : Nat} (hlt : x < y) (hy : y < 256) :
    Precedes (UInt8.ofNat x :: as) (UInt8.ofNat y :: bs) :=
  precedes_cons (Nat.le_of_lt hlt) hy fun heq => absurd heq (Nat.ne_of_lt hlt)

/-! ### Characters -/

/-- The sequence of the smaller character precedes.  Sequences of different lengths differ
in their first bytes; those of one length carry the same digits of base 64 in the same
places. -/
theorem precedes_utf8EncodeChar {c d : Char} (h : c < d) :
    Precedes (String.utf8EncodeChar c) (String.utf8EncodeChar d) := by
  have hlt : c.val.toNat < d.val.toNat := h
  have hd : d.val.toNat < 0x110000 := by
    have hvalid := d.valid
    simp only [UInt32.isValidChar, Nat.isValidChar] at hvalid
    omega
  simp only [String.utf8EncodeChar]
  generalize c.val.toNat = v at *
  generalize d.val.toNat = w at *
  by_cases hv1 : v ≤ 0x7f
  · rw [if_pos hv1]
    split
    · exact precedes_of_lt hlt (by omega)
    split
    · exact precedes_of_lt (by omega) (by omega)
    split
    · exact precedes_of_lt (by omega) (by omega)
    · exact precedes_of_lt (by omega) (by omega)
  have hw1 : ¬ w ≤ 0x7f := by omega
  rw [if_neg hv1, if_neg hw1]
  by_cases hv2 : v ≤ 0x7ff
  · rw [if_pos hv2]
    split
    · refine precedes_cons (by omega) (by omega) fun h1 => ?_
      exact precedes_of_lt (by omega) (by omega)
    split
    · exact precedes_of_lt (by omega) (by omega)
    · exact precedes_of_lt (by omega) (by omega)
  have hw2 : ¬ w ≤ 0x7ff := by omega
  rw [if_neg hv2, if_neg hw2]
  by_cases hv3 : v ≤ 0xffff
  · rw [if_pos hv3]
    split
    · refine precedes_cons (by omega) (by omega) fun h1 => ?_
      refine precedes_cons (by omega) (by omega) fun h2 => ?_
      exact precedes_of_lt (by omega) (by omega)
    · exact precedes_of_lt (by omega) (by omega)
  have hw3 : ¬ w ≤ 0xffff := by omega
  rw [if_neg hv3, if_neg hw3]
  refine precedes_cons (by omega) (by omega) fun h1 => ?_
  refine precedes_cons (by omega) (by omega) fun h2 => ?_
  refine precedes_cons (by omega) (by omega) fun h3 => ?_
  exact precedes_of_lt (by omega) (by omega)

/-- A character takes one byte at least. -/
theorem exists_utf8EncodeChar_eq_cons (c : Char) :
    ∃ first rest, String.utf8EncodeChar c = first :: rest := by
  cases hbytes : String.utf8EncodeChar c with
  | nil =>
    have hsize := String.length_utf8EncodeChar c
    rw [hbytes] at hsize
    exact absurd hsize (Nat.ne_of_lt c.utf8Size_pos)
  | cons first rest => exact ⟨first, rest, rfl⟩

/-! ### Texts -/

/-- The bytes of a text are those of its characters. -/
theorem utf8_eq_flatMap (s : String) : utf8 s = s.toList.flatMap String.utf8EncodeChar := by
  rw [utf8, ← String.utf8Encode_toList, List.utf8Encode]
  simp

/-- Texts are ordered as their bytes are. -/
theorem flatMap_utf8EncodeChar_lt {cs ds : List Char} (h : cs < ds) :
    cs.flatMap String.utf8EncodeChar < ds.flatMap String.utf8EncodeChar := by
  induction cs generalizing ds with
  | nil =>
    cases ds with
    | nil => exact absurd h (List.lt_irrefl [])
    | cons d ds =>
      obtain ⟨first, rest, hbytes⟩ := exists_utf8EncodeChar_eq_cons d
      rw [List.flatMap_nil, List.flatMap_cons, hbytes]
      exact List.nil_lt_cons _ _
  | cons c cs ih =>
    cases ds with
    | nil => exact absurd h (List.not_lt_nil _)
    | cons d ds =>
      rw [List.flatMap_cons, List.flatMap_cons]
      rcases List.cons_lt_cons_iff.1 h with hlt | ⟨rfl, hlt⟩
      · exact ((precedes_utf8EncodeChar hlt).append _ _).lt
      · exact List.append_left_lt (ih hlt)

/-- The smaller text has the smaller bytes, and the other way round. -/
theorem utf8_lt_utf8 {a b : String} : utf8 a < utf8 b ↔ a < b := by
  have hmono {a b : String} (h : a < b) : utf8 a < utf8 b := by
    rw [utf8_eq_flatMap, utf8_eq_flatMap]
    exact flatMap_utf8EncodeChar_lt h
  refine ⟨fun h => ?_, hmono⟩
  rcases Decidable.em (a < b) with hlt | hge
  · exact hlt
  · rcases Decidable.em (b < a) with hgt | hle
    · exact absurd h (List.lt_asymm (hmono hgt))
    · obtain rfl := String.le_antisymm (String.not_lt.1 hle) (String.not_lt.1 hge)
      exact absurd h (List.lt_irrefl _)

end Parley.Text
