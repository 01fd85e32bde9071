/-
# Text from UTF-8 bytes

Frames hold text as UTF-8.  Reading either gives the one string with those bytes
or says where the first ill-formed sequence begins and how long it is; a sequence
that the end of the input cuts short is told apart from one that no continuation
could mend.
-/

namespace Parley.Text

/-- Where UTF-8 decoding stops. -/
structure Utf8Error where
  /-- Number of bytes before the sequence at fault, all of them well formed. -/
  validUpTo : Nat
  /-- Length of the ill-formed sequence, or `none` when the input ends inside a
  sequence that could still have become well formed. -/
  badLength : Option Nat
deriving DecidableEq, Repr

/-- The wording of a decoding failure. -/
def Utf8Error.message (e : Utf8Error) : String :=
  match e.badLength with
  | some n => s!"invalid utf-8 sequence of {n} bytes from index {e.validUpTo}"
  | none => s!"incomplete utf-8 byte sequence from index {e.validUpTo}"

/-- What a sequence opened by a given byte demands of its second byte, and how
many bytes it has in all.  `none` for a byte that opens no sequence. -/
def sequenceShape (b : UInt8) : Option (Nat × UInt8 × UInt8) :=
  if b < 0x80 then some (1, 0x80, 0xBF)
  else if b < 0xC2 then none
  else if b ≤ 0xDF then some (2, 0x80, 0xBF)
  else if b = 0xE0 then some (3, 0xA0, 0xBF)
  else if b = 0xED then some (3, 0x80, 0x9F)
  else if b ≤ 0xEF then some (3, 0x80, 0xBF)
  else if b = 0xF0 then some (4, 0x90, 0xBF)
  else if b ≤ 0xF3 then some (4, 0x80, 0xBF)
  else if b = 0xF4 then some (4, 0x80, 0x8F)
  else none

/-- Count the leading bytes of `bs`, at most `wanted`, that may continue a
sequence: the first within `low` to `high`, later ones within `0x80` to `0xBF`.
The flag tells whether the input ended while all was well. -/
def continuation (low high : UInt8) : Nat → List UInt8 → Nat × Bool
  | 0, _ => (0, false)
  | _ + 1, [] => (0, true)
  | wanted + 1, b :: bs =>
      if low ≤ b ∧ b ≤ high then
        let tail := continuation 0x80 0xBF wanted bs
        (tail.1 + 1, tail.2)
      else (0, false)

/-- The first ill-formed sequence of `bs`, when there is one.  `seen` counts the
bytes already accepted and `skip` those of the sequence under way. -/
def firstFault (seen : Nat) : Nat → List UInt8 → Option Utf8Error
  | _, [] => none
  | skip + 1, _ :: bs => firstFault (seen + 1) skip bs
  | 0, b :: bs =>
      match sequenceShape b with
      | none => some ⟨seen, some 1⟩
      | some (size, low, high) =>
          match continuation low high (size - 1) bs with
          | (got, ended) =>
              if got = size - 1 then firstFault (seen + 1) got bs
              else if ended then some ⟨seen, none⟩
              else some ⟨seen, some (got + 1)⟩

/-- The string with exactly these bytes, or the first fault. -/
def ofUtf8 (bs : List UInt8) : Except Utf8Error String :=
  match String.fromUTF8? ⟨bs.toArray⟩ with
  | some s => .ok s
  | none => .error ((firstFault 0 0 bs).getD ⟨0, none⟩)

/-- The bytes of a string. -/
def utf8 (s : String) : List UInt8 :=
  s.toByteArray.data.toList

/-- Reading back the bytes of a string gives the string. -/
@[simp] theorem ofUtf8_utf8 (s : String) : ofUtf8 (utf8 s) = .ok s := by
  have : String.fromUTF8? s.toByteArray = some s := by
    unfold String.fromUTF8?
    rw [dif_pos s.isValidUTF8]
    rfl
  simp [ofUtf8, utf8, this]

/-- Bytes that read as a string are that string's bytes. -/
theorem utf8_of_ofUtf8 {bs : List UInt8} {s : String} (h : ofUtf8 bs = .ok s) : utf8 s = bs := by
  unfold ofUtf8 at h
  split at h
  · rename_i t ht
    cases h
    unfold String.fromUTF8? at ht
    split at ht
    · cases ht; simp [utf8, String.fromUTF8]
    · cases ht
  · cases h

end Parley.Text
