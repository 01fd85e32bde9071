/-
# Integers read back

The written form of an integer reads as this integer, and it consists of digits after at
most one minus sign, so that trimming leaves it alone.
-/

import Parley.Decimal.Integer
import Parley.Text.Blank

namespace Parley.Decimal

/-! ### Digits -/

/-- A digit has its value. -/
theorem digitValue?_digitChar {d : Nat} (h : d < 10) : digitValue? (digitChar d) = some d := by
  revert d
  decide

/-- A digit is no blank. -/
theorem isBlank_digitChar {d : Nat} (h : d < 10) : Text.isBlank (digitChar d) = false := by
  revert d
  decide

/-- A digit is no plus. -/
theorem digitChar_ne_plus {d : Nat} (h : d < 10) : digitChar d ≠ '+' := by
  revert d
  decide

/-- A digit is no minus. -/
theorem digitChar_ne_minus {d : Nat} (h : d < 10) : digitChar d ≠ '-' := by
  revert d
  decide

/-- The digits of a number with more than one digit. -/
theorem natDigits_of_le {n : Nat} (h : 10 ≤ n) :
    natDigits n = natDigits (n / 10) ++ [digitChar (n % 10)] := by
  rw [natDigits, if_neg (Nat.not_lt.2 h)]

/-- A number below ten has one digit. -/
theorem natDigits_of_lt {n : Nat} (h : n < 10) : natDigits n = [digitChar n] := by
  rw [natDigits, if_pos h]

/-- Every character of the written form of a natural number is a digit. -/
theorem exists_digit_of_mem_natDigits {n : Nat} {c : Char} (h : c ∈ natDigits n) :
    ∃ d, d < 10 ∧ c = digitChar d := by
  induction n using Nat.strongRecOn with
  | ind n ih =>
    by_cases hn : n < 10
    · rw [natDigits_of_lt hn, List.mem_singleton] at h
      exact ⟨n, hn, h⟩
    · rw [natDigits_of_le (Nat.le_of_not_lt hn), List.mem_append, List.mem_singleton] at h
      rcases h with h | h
      · exact ih (n / 10) (by omega) h
      · exact ⟨n % 10, by omega, h⟩

/-- There is a first digit, and it is zero only in the written form of zero. -/
theorem exists_natDigits_eq_cons (n : Nat) :
    ∃ d rest, d < 10 ∧ natDigits n = digitChar d :: rest ∧ (d = 0 → n = 0) := by
  induction n using Nat.strongRecOn with
  | ind n ih =>
    by_cases hn : n < 10
    · exact ⟨n, [], hn, natDigits_of_lt hn, id⟩
    · obtain ⟨d, rest, hd, hdigits, hzero⟩ := ih (n / 10) (by omega)
      refine ⟨d, rest ++ [digitChar (n % 10)], hd, ?_, fun h => ?_⟩
      · rw [natDigits_of_le (Nat.le_of_not_lt hn), hdigits, List.cons_append]
      · have := hzero h
        omega

/-! ### Reading -/

/-- Digits may be read in two parts. -/
theorem readDigits_append (acc : Nat) (before after : List Char) :
    readDigits acc (before ++ after) =
      (readDigits acc before).bind fun acc => readDigits acc after := by
  induction before generalizing acc with
  | nil => rfl
  | cons c cs ih =>
    simp only [List.cons_append, readDigits]
    cases digitValue? c with
    | none => rfl
    | some d => exact ih (acc * 10 + d)

@[simp]
theorem readDigits_natDigits (n : Nat) : readDigits 0 (natDigits n) = some n := by
  induction n using Nat.strongRecOn with
  | ind n ih =>
    by_cases hn : n < 10
    · simp [natDigits_of_lt hn, readDigits, digitValue?_digitChar hn]
    · have hd : n % 10 < 10 := by omega
      rw [natDigits_of_le (Nat.le_of_not_lt hn), readDigits_append, ih (n / 10) (by omega)]
      simp only [Option.bind_some, readDigits, digitValue?_digitChar hd]
      congr 1
      omega

@[simp]
theorem readUnsigned?_natDigits (n : Nat) : readUnsigned? (natDigits n) = some n := by
  obtain ⟨d, rest, -, hdigits, -⟩ := exists_natDigits_eq_cons n
  have hread := readDigits_natDigits n
  rw [hdigits] at hread ⊢
  exact hread

@[simp]
theorem readNat?_natDigits (n : Nat) : readNat? (natDigits n) = some n := by
  obtain ⟨d, rest, hd, hdigits, -⟩ := exists_natDigits_eq_cons n
  have hread := readUnsigned?_natDigits n
  have hplus := digitChar_ne_plus hd
  rw [hdigits] at hread ⊢
  unfold readNat?
  split
  · rename_i heq
    exact absurd (List.cons.inj heq).1 hplus
  · exact hread

/-- The characters of the written form of an integer. -/
def intDigits : Int → List Char
  | .ofNat n => natDigits n
  | .negSucc n => '-' :: natDigits (n + 1)

/-- The text of a natural number has its digits. -/
theorem toList_natText (n : Nat) : (natText n).toList = natDigits n :=
  String.toList_ofList

/-- The text of an integer has its digits. -/
theorem toList_intText (i : Int) : (intText i).toList = intDigits i := by
  cases i <;> exact String.toList_ofList

@[simp]
theorem readInt?_intDigits (i : Int) : readInt? (intDigits i) = some i := by
  cases i with
  | ofNat n =>
    obtain ⟨d, rest, hd, hdigits, -⟩ := exists_natDigits_eq_cons n
    have hread := readNat?_natDigits n
    have hminus := digitChar_ne_minus hd
    simp only [intDigits]
    rw [hdigits] at hread ⊢
    unfold readInt?
    split
    · rename_i heq
      exact absurd (List.cons.inj heq).1 hminus
    · rw [hread]
      rfl
  | negSucc n =>
    simp only [intDigits, readInt?, readUnsigned?_natDigits]
    rfl

/-! ### Trimming -/

/-- No digit of a number is blank. -/
theorem isBlank_of_mem_natDigits {n : Nat} {c : Char} (h : c ∈ natDigits n) :
    Text.isBlank c = false := by
  obtain ⟨d, hd, rfl⟩ := exists_digit_of_mem_natDigits h
  exact isBlank_digitChar hd

/-- Neither a digit of an integer nor its sign is blank. -/
theorem isBlank_of_mem_intDigits {i : Int} {c : Char} (h : c ∈ intDigits i) :
    Text.isBlank c = false := by
  cases i with
  | ofNat n => exact isBlank_of_mem_natDigits h
  | negSucc n =>
    rcases List.mem_cons.1 h with rfl | h
    · decide
    · exact isBlank_of_mem_natDigits h

/-- The written form of a natural number has no blanks to trim. -/
@[simp]
theorem trim_natDigits (n : Nat) : Text.trim (natDigits n) = natDigits n :=
  Text.trim_eq_self (fun _ h => isBlank_of_mem_natDigits (List.mem_of_mem_head? h))
    fun _ h => isBlank_of_mem_natDigits (List.mem_of_mem_getLast? h)

/-- The written form of an integer has no blanks to trim. -/
@[simp]
theorem trim_intDigits (i : Int) : Text.trim (intDigits i) = intDigits i :=
  Text.trim_eq_self (fun _ h => isBlank_of_mem_intDigits (List.mem_of_mem_head? h))
    fun _ h => isBlank_of_mem_intDigits (List.mem_of_mem_getLast? h)

end Parley.Decimal
