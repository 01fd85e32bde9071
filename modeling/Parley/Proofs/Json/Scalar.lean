/-
# Strings and integers of JSON read back

A string between quotes reads as the string, whatever characters it has, and the digits of
an integer that fits a 64-bit word read as this integer, unless what follows them would go
on with the number.
-/

import Parley.Json.Printer
import Parley.Json.Reader
import Parley.Proofs.Decimal

namespace Parley.Json

/-! ### Strings -/

/-- A hexadecimal digit has its value. -/
theorem hexValue?_hexDigit {d : Nat} (h : d < 16) : hexValue? (hexDigit d) = some d := by
  revert d
  decide

/-- Four hexadecimal digits of a small number have its value. -/
theorem hexQuad_hexDigit {n : Nat} (h : n < 256) (rest : List Char) :
    hexQuad ('0' :: '0' :: hexDigit (n / 16) :: hexDigit (n % 16) :: rest) = some (n, rest) := by
  have hzero : hexValue? '0' = some 0 := by decide
  have hhigh : hexValue? (hexDigit (n / 16)) = some (n / 16) := hexValue?_hexDigit (by omega)
  have hlow : hexValue? (hexDigit (n % 16)) = some (n % 16) := hexValue?_hexDigit (by omega)
  have hvalue : ((0 * 16 + 0) * 16 + n / 16) * 16 + n % 16 = n := by omega
  simp only [hexQuad, hzero, hhigh, hlow, Option.bind_eq_bind, Option.bind_some, hvalue]

/-- The escape of a control character stands for it. -/
theorem unicodeEscape_hexDigit {c : Char} (h : c.toNat < 0x20) (rest : List Char) :
    unicodeEscape ('0' :: '0' :: hexDigit (c.toNat / 16) :: hexDigit (c.toNat % 16) :: rest) =
      some (c, rest) := by
  have hsmall : c.toNat < 256 := by omega
  have hquad := hexQuad_hexDigit hsmall rest
  have hlow : ¬ (0xDC00 ≤ c.toNat ∧ c.toNat ≤ 0xDFFF) := by omega
  have hhigh : ¬ (0xD800 ≤ c.toNat ∧ c.toNat ≤ 0xDBFF) := by omega
  simp only [unicodeEscape, hquad, Option.bind_eq_bind, Option.bind_some, if_neg hlow,
    if_neg hhigh, Char.ofNat_toNat]

/-- Reading the escaped form of a character gives the character. -/
theorem stringBody_escape (fuel : Nat) (c : Char) (rest : List Char) :
    stringBody (fuel + 1) (escape c ++ rest) =
      (stringBody fuel rest).map fun (tail, rest) => (c :: tail, rest) := by
  by_cases hquote : c = '"'
  · subst hquote
    rfl
  by_cases hslash : c = '\\'
  · subst hslash
    rfl
  by_cases hb : c = '\x08'
  · subst hb
    rfl
  by_cases hf : c = '\x0c'
  · subst hf
    rfl
  by_cases hn : c = '\n'
  · subst hn
    rfl
  by_cases hr : c = '\r'
  · subst hr
    rfl
  by_cases ht : c = '\t'
  · subst ht
    rfl
  by_cases hcontrol : c.toNat < 0x20
  · simp only [escape, if_neg hquote, if_neg hslash, if_neg hb, if_neg hf, if_neg hn, if_neg hr,
      if_neg ht, if_pos hcontrol, List.cons_append, List.nil_append, stringBody,
      unicodeEscape_hexDigit hcontrol, Option.bind_some]
    rfl
  · simp only [escape, if_neg hquote, if_neg hslash, if_neg hb, if_neg hf, if_neg hn, if_neg hr,
      if_neg ht, if_neg hcontrol, List.cons_append, List.nil_append, stringBody]

/-- Reading the escaped form of some characters up to the closing quote gives them. -/
theorem stringBody_flatMap_escape {fuel : Nat} {cs : List Char} (h : cs.length < fuel)
    (rest : List Char) :
    stringBody fuel (cs.flatMap escape ++ '"' :: rest) = some (cs, rest) := by
  induction cs generalizing fuel with
  | nil =>
    obtain ⟨fuel, rfl⟩ : ∃ k, fuel = k + 1 := ⟨fuel - 1, by omega⟩
    rfl
  | cons c cs ih =>
    obtain ⟨fuel, rfl⟩ : ∃ k, fuel = k + 1 :=
      ⟨fuel - 1, by simp only [List.length_cons] at h; omega⟩
    have hcs : cs.length < fuel := by simpa using h
    rw [List.flatMap_cons, List.append_assoc, stringBody_escape, ih hcs]
    rfl

/-- A character is written as one at least. -/
theorem length_escape_pos (c : Char) : 0 < (escape c).length := by
  simp only [escape]
  repeat' split
  all_goals simp

/-- A text is not longer than its characters escaped. -/
theorem length_le_length_flatMap_escape (cs : List Char) :
    cs.length ≤ (cs.flatMap escape).length := by
  induction cs with
  | nil => simp
  | cons c cs ih =>
    have hc := length_escape_pos c
    simp only [List.flatMap_cons, List.length_cons, List.length_append]
    omega

/-- What follows the opening quote of a string in its written form. -/
def quoteTail (s : String) : List Char :=
  s.toList.flatMap escape ++ ['"']

/-- A string is its quote and its tail. -/
theorem quote_eq (s : String) : quote s = '"' :: quoteTail s := rfl

/-- A string reads back after its opening quote. -/
@[simp]
theorem stringTail_quoteTail (s : String) (rest : List Char) :
    stringTail (quoteTail s ++ rest) = some (s, rest) := by
  have hfuel : s.toList.length < (quoteTail s ++ rest).length + 1 := by
    have := length_le_length_flatMap_escape s.toList
    simp only [quoteTail, List.length_append]
    omega
  have hbody := stringBody_flatMap_escape hfuel rest
  have happend : quoteTail s ++ rest = s.toList.flatMap escape ++ '"' :: rest := by
    simp [quoteTail]
  rw [stringTail]
  rw [happend] at hbody ⊢
  rw [hbody]
  simp

/-! ### Integers -/

/-- Whether what follows a number does not go on with it. -/
def Stops (rest : List Char) : Prop :=
  ∀ c ∈ rest.head?, Decimal.digitValue? c = none ∧ c ≠ '.' ∧ c ≠ 'e' ∧ c ≠ 'E'

/-- A number stops before any character that cannot go on with it. -/
theorem stops_cons {c : Char} {rest : List Char}
    (h : Decimal.digitValue? c = none ∧ c ≠ '.' ∧ c ≠ 'e' ∧ c ≠ 'E') : Stops (c :: rest) := by
  intro d hd
  cases hd
  exact h

/-- Where a number stops no digit follows. -/
theorem Stops.startsWithDigit {rest : List Char} (h : Stops rest) :
    startsWithDigit rest = false := by
  cases rest with
  | nil => rfl
  | cons c cs => simp [Json.startsWithDigit, (h c rfl).1]

/-- Reading on never lowers the number. -/
theorem le_of_readDigits {acc n : Nat} {cs : List Char} (h : Decimal.readDigits acc cs = some n) :
    acc ≤ n := by
  induction cs generalizing acc with
  | nil => exact Nat.le_of_eq (Option.some.inj h)
  | cons c rest ih =>
    obtain ⟨d, -, hrest⟩ := Option.bind_eq_some_iff.1 h
    have := ih hrest
    omega

/-- The digits of a number that fits are taken together. -/
theorem wholeDigits_of_readDigits {acc n : Nat} {cs : List Char}
    (hread : Decimal.readDigits acc cs = some n) (h : n ≤ maxSignificand) (tail : List Char) :
    wholeDigits ⟨acc, 0, true⟩ (cs ++ tail) = wholeDigits ⟨n, 0, true⟩ tail := by
  induction cs generalizing acc with
  | nil => rw [List.nil_append, Option.some.inj hread]
  | cons c rest ih =>
    obtain ⟨d, hd, hrest⟩ := Option.bind_eq_some_iff.1 hread
    have hfits : acc * 10 + d ≤ maxSignificand := Nat.le_trans (le_of_readDigits hrest) h
    rw [List.cons_append, wholeDigits, hd]
    simp only [true_and, if_pos hfits]
    exact ih hrest

/-- The digits of a number that fits are read as the number. -/
theorem wholeDigits_natDigits {n : Nat} (h : n ≤ maxSignificand) (tail : List Char) :
    wholeDigits ⟨0, 0, true⟩ (Decimal.natDigits n ++ tail) = wholeDigits ⟨n, 0, true⟩ tail :=
  wholeDigits_of_readDigits (Decimal.readDigits_natDigits n) h tail

/-- Where a number stops no more digits are read. -/
theorem wholeDigits_of_stops {acc : Digits} {rest : List Char} (h : Stops rest) :
    wholeDigits acc rest = (acc, rest) := by
  cases rest with
  | nil => rfl
  | cons c cs => simp [wholeDigits, (h c rfl).1]

/-- Where a number stops there is no exponent. -/
theorem exponentPart_of_stops {negative : Bool} {d : Digits} {rest : List Char}
    (finish : Option Number) (h : Stops rest) :
    exponentPart negative d rest finish = finish.map (·, rest) := by
  cases rest with
  | nil => rfl
  | cons c cs =>
    obtain ⟨-, -, he, hE⟩ := h c rfl
    unfold exponentPart
    split
    · rename_i heq
      exact absurd (List.cons.inj heq).1 he
    · rename_i heq
      exact absurd (List.cons.inj heq).1 hE
    · rfl

/-- Where a number stops there is no fraction. -/
theorem fractionPart_of_stops {negative : Bool} {d : Digits} {rest : List Char}
    (h : Stops rest) :
    fractionPart negative d rest = (d.toNumber negative).map (·, rest) := by
  unfold fractionPart
  split
  · exact absurd rfl (h '.' rfl).2.1
  · exact exponentPart_of_stops _ h

/-- The digits of a natural number are the whole part of the number. -/
theorem wholePart_natDigits {n : Nat} (h : n ≤ maxSignificand) {rest : List Char}
    (hrest : Stops rest) :
    wholePart (Decimal.natDigits n ++ rest) = some (⟨n, 0, true⟩, rest) := by
  by_cases hn : n = 0
  · subst hn
    have hdigits : Decimal.natDigits 0 = ['0'] := by
      rw [Decimal.natDigits_of_lt (by decide)]
      rfl
    rw [hdigits, List.cons_append, List.nil_append, wholePart, hrest.startsWithDigit]
    rfl
  · have hwhole := wholeDigits_natDigits h rest
    rw [wholeDigits_of_stops hrest] at hwhole
    obtain ⟨d, more, hd, hdigits, hzero⟩ := Decimal.exists_natDigits_eq_cons n
    have hfirst : Decimal.digitChar d ≠ '0' := by
      intro heq
      have hvalue := Decimal.digitValue?_digitChar hd
      rw [heq] at hvalue
      exact hn (hzero (Option.some.inj hvalue).symm)
    rw [hdigits, List.cons_append] at hwhole ⊢
    unfold wholePart
    split
    · rename_i heq
      exact absurd (List.cons.inj heq).1 hfirst
    · rw [hwhole]

/-- The digits of a natural number make up the whole of a number. -/
theorem magnitude_natDigits {n : Nat} (h : n ≤ maxSignificand) (negative : Bool)
    {rest : List Char} (hrest : Stops rest) :
    magnitude negative (Decimal.natDigits n ++ rest) =
      (Digits.toNumber negative ⟨n, 0, true⟩).map (·, rest) := by
  have hstart : startsWithDigit (Decimal.natDigits n ++ rest) = true := by
    obtain ⟨d, more, hd, hdigits, -⟩ := Decimal.exists_natDigits_eq_cons n
    simp [hdigits, startsWithDigit, Decimal.digitValue?_digitChar hd]
  rw [magnitude, if_pos hstart, wholePart_natDigits h hrest, Option.bind_some]
  exact fractionPart_of_stops hrest

/-- An integer that fits a 64-bit word reads back. -/
theorem number_intDigits {i : Int} (hmin : minInt ≤ i) (hmax : i ≤ maxInt) {rest : List Char}
    (hrest : Stops rest) :
    number (Decimal.intDigits i ++ rest) = some (.int i, rest) := by
  have hbounds : minInt = -(9223372036854775808 : Int) ∧ maxInt = 18446744073709551615 ∧
      maxSignificand = 18446744073709551615 := by decide
  obtain ⟨hminInt, hmaxInt, hsignificand⟩ := hbounds
  cases i with
  | ofNat n =>
    have hn : n ≤ maxSignificand := by
      rw [Int.ofNat_eq_natCast] at hmax
      omega
    have hmagnitude := magnitude_natDigits hn false hrest
    obtain ⟨d, more, hd, hdigits, -⟩ := Decimal.exists_natDigits_eq_cons n
    have hminus := Decimal.digitChar_ne_minus hd
    simp only [Decimal.intDigits]
    rw [hdigits, List.cons_append] at hmagnitude ⊢
    unfold number
    split
    · rename_i heq
      exact absurd (List.cons.inj heq).1 hminus
    · rw [hmagnitude]
      rfl
  | negSucc n =>
    have hn : n + 1 ≤ maxSignificand := by omega
    have hreal : ¬ (n + 1 = 0 ∨ -((n + 1 : Nat) : Int) < minInt) := by omega
    simp only [Decimal.intDigits, List.cons_append, number, magnitude_natDigits hn true hrest,
      Digits.toNumber, if_true, if_neg hreal]
    rfl

end Parley.Json
