/-
# Words in frames

Lengths, counts and tags are 32-bit words, most significant byte first.
-/

namespace Parley.Frame

/-- The bytes of a frame or of a part of it. -/
abbrev Bytes := List UInt8

/-- One more than the largest word. -/
def wordLimit : Nat := UInt32.size

/-- Number of bytes of a word. -/
def wordSize : Nat := 4

/-- The four bytes of a word. -/
def word (n : Nat) : Bytes :=
  [(n >>> 24).toUInt8, (n >>> 16).toUInt8, (n >>> 8).toUInt8, n.toUInt8]

/-- The word with these four bytes. -/
def ofWord (a b c d : UInt8) : Nat :=
  ((a.toNat * 256 + b.toNat) * 256 + c.toNat) * 256 + d.toNat

/-- A word has four bytes. -/
@[simp] theorem length_word (n : Nat) : (word n).length = wordSize := rfl

/-- The value of the bytes of a word is the word. -/
theorem ofWord_word {n : Nat} (h : n < wordLimit) :
    ofWord (n >>> 24).toUInt8 (n >>> 16).toUInt8 (n >>> 8).toUInt8 n.toUInt8 = n := by
  simp only [ofWord, wordLimit, UInt32.size] at *
  simp only [Nat.toUInt8_eq, UInt8.toNat_ofNat', Nat.shiftRight_eq_div_pow]
  omega

/-- The bytes of the value of four bytes are these bytes. -/
theorem word_ofWord (a b c d : UInt8) : word (ofWord a b c d) = [a, b, c, d] := by
  have ha := a.toNat_lt
  have hb := b.toNat_lt
  have hc := c.toNat_lt
  have hd := d.toNat_lt
  have h (x : Nat) (y : UInt8) (e : x % 256 = y.toNat) : x.toUInt8 = y := by
    rw [← UInt8.toNat_inj]
    simpa using e
  simp only [word, ofWord, Nat.shiftRight_eq_div_pow]
  rw [h _ a (by omega), h _ b (by omega), h _ c (by omega), h _ d (by omega)]

/-- The value of four bytes is a word. -/
theorem ofWord_lt (a b c d : UInt8) : ofWord a b c d < wordLimit := by
  have ha := a.toNat_lt
  have hb := b.toNat_lt
  have hc := c.toNat_lt
  have hd := d.toNat_lt
  simp only [ofWord, wordLimit, UInt32.size]
  omega

end Parley.Frame
