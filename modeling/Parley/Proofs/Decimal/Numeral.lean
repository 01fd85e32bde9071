/-
# Reading exactly the numerals

The readers of integers accept exactly the strings that stand for a number, and give this
number (`readInt?_eq_some_iff`).
-/

import Parley.Decimal.Integer
import Parley.Decimal.Numeral
import Parley.Text.Blank

namespace Parley.Decimal

variable {cs : List Char}

/-! ### Digits -/

/-- The digits are the characters from zero to nine. -/
theorem isDigit_iff (c : Char) : c.isDigit = true ↔ '0' ≤ c ∧ c ≤ '9' := by
  simp only [Char.isDigit, Bool.and_eq_true, decide_eq_true_eq, Char.le_def]

/-- A digit has the value of its place among them. -/
theorem digitValue?_eq_some_iff {c : Char} {d : Nat} :
    digitValue? c = some d ↔ c.isDigit = true ∧ c.toNat - '0'.toNat = d := by
  rw [digitValue?, isDigit_iff]
  split
  · rename_i hdigit
    simp only [hdigit, Option.some.injEq, true_and]
    rfl
  · rename_i hdigit
    simp [hdigit]

/-- A sign is no digit. -/
theorem isDigit_sign {c : Char} (h : c = '+' ∨ c = '-') : c.isDigit = false := by
  rcases h with rfl | rfl <;> rfl

/-- A digit is no blank. -/
theorem isBlank_of_isDigit {c : Char} (h : c.isDigit = true) : Text.isBlank c = false := by
  have hrange : 48 ≤ c.toNat ∧ c.toNat ≤ 57 := by
    obtain ⟨hlow, hhigh⟩ := (isDigit_iff c).1 h
    exact ⟨hlow, hhigh⟩
  simp only [Text.isBlank, Text.inRanges, Text.blankRanges, List.any_cons, List.any_nil,
    Bool.or_eq_false_iff, Bool.and_eq_false_iff, decide_eq_false_iff_not, and_true]
  omega

/-! ### Strings of digits -/

/-- Reading on is adding up the digits that follow. -/
theorem readDigits_eq_some_iff {acc n : Nat} :
    readDigits acc cs = some n ↔
      (∀ c ∈ cs, c.isDigit = true) ∧
        cs.foldl (fun n c => 10 * n + (c.toNat - '0'.toNat)) acc = n := by
  induction cs generalizing acc with
  | nil => simp [readDigits]
  | cons c rest ih =>
    rw [readDigits, Option.bind_eq_some_iff, List.foldl_cons, List.forall_mem_cons]
    constructor
    · rintro ⟨d, hd, hrest⟩
      obtain ⟨hdigit, rfl⟩ := digitValue?_eq_some_iff.1 hd
      rw [Nat.mul_comm, ih] at hrest
      exact ⟨⟨hdigit, hrest.1⟩, hrest.2⟩
    · rintro ⟨⟨hdigit, hdigits⟩, hvalue⟩
      refine ⟨_, digitValue?_eq_some_iff.2 ⟨hdigit, rfl⟩, ?_⟩
      rw [Nat.mul_comm, ih]
      exact ⟨hdigits, hvalue⟩

/-- What is read without a sign is a numeral. -/
theorem readUnsigned?_eq_some_iff {n : Nat} : readUnsigned? cs = some n ↔ IsNumeral cs n := by
  cases cs with
  | nil =>
    constructor
    · intro h
      cases h
    · intro h
      exact absurd rfl h.nonempty
  | cons c rest =>
    rw [readUnsigned?, readDigits_eq_some_iff]
    · exact ⟨fun h => ⟨List.cons_ne_nil _ _, h.1, h.2⟩, fun h => ⟨h.digits, h.value⟩⟩
    · exact List.cons_ne_nil c rest

/-- A string of digits does not begin with a sign. -/
theorem IsNumeral.head_ne {n : Nat} (h : IsNumeral cs n) {sign : Char}
    (hsign : sign = '+' ∨ sign = '-') (rest : List Char) : cs ≠ sign :: rest := by
  rintro rfl
  have hdigit := h.digits sign (by simp)
  rw [isDigit_sign hsign] at hdigit
  cases hdigit

/-! ### Signs -/

/-- What is read as a natural number is spelled as one. -/
theorem readNat?_eq_some_iff {n : Nat} : readNat? cs = some n ↔ IsNatural cs n := by
  unfold readNat?
  split
  · rename_i rest
    rw [readUnsigned?_eq_some_iff]
    constructor
    · exact .plus
    · rintro (h | h)
      · exact absurd rfl (h.head_ne (.inl rfl) rest)
      · exact h
  · rename_i hplus
    rw [readUnsigned?_eq_some_iff]
    constructor
    · exact .unsigned
    · rintro (h | h)
      · exact h
      · exact absurd rfl (hplus _)

/-- A natural number does not begin with a minus sign. -/
theorem IsNatural.ne_minus {n : Nat} (h : IsNatural cs n) (rest : List Char) :
    cs ≠ '-' :: rest := by
  cases h with
  | unsigned numeral => exact numeral.head_ne (.inr rfl) rest
  | plus numeral => exact fun heq => absurd (List.cons.inj heq).1 (by decide)

/-- Behind a minus stands a numeral. -/
theorem readInt?_minus_eq_some_iff {i : Int} :
    readInt? ('-' :: cs) = some i ↔ ∃ n : Nat, IsNumeral cs n ∧ -(n : Int) = i := by
  rw [readInt?]
  cases hread : readUnsigned? cs with
  | none => simp [← readUnsigned?_eq_some_iff, hread]
  | some n => simp [← readUnsigned?_eq_some_iff, hread]

/-- The reader of integers accepts exactly what stands for one. -/
theorem readInt?_eq_some_iff {i : Int} : readInt? cs = some i ↔ IsInteger cs i := by
  by_cases hminus : ∃ rest, cs = '-' :: rest
  · obtain ⟨rest, rfl⟩ := hminus
    rw [readInt?_minus_eq_some_iff]
    constructor
    · rintro ⟨n, hnumeral, rfl⟩
      exact .minus hnumeral
    · rintro (h | h)
      · exact absurd rfl (h.ne_minus rest)
      · exact ⟨_, h, rfl⟩
  · rw [readInt?, Option.map_eq_some_iff]
    · constructor
      · rintro ⟨n, hread, rfl⟩
        exact .natural (readNat?_eq_some_iff.1 hread)
      · rintro (h | h)
        · exact ⟨_, readNat?_eq_some_iff.2 h, rfl⟩
        · exact absurd ⟨_, rfl⟩ hminus
    · exact fun rest heq => hminus ⟨rest, heq⟩

/-! ### What numerals are made of -/

/-- A natural number takes some characters. -/
theorem IsNatural.ne_nil {n : Nat} (h : IsNatural cs n) : cs ≠ [] := by
  cases h with
  | unsigned numeral => exact numeral.nonempty
  | plus numeral => exact List.cons_ne_nil _ _

/-- An integer takes some characters. -/
theorem IsInteger.ne_nil {i : Int} (h : IsInteger cs i) : cs ≠ [] := by
  cases h with
  | natural natural => exact natural.ne_nil
  | minus numeral => exact List.cons_ne_nil _ _

/-- No character of a natural number is blank. -/
theorem IsNatural.isBlank_eq_false {n : Nat} (h : IsNatural cs n) :
    ∀ c ∈ cs, Text.isBlank c = false := by
  cases h with
  | unsigned numeral => exact fun c hc => isBlank_of_isDigit (numeral.digits c hc)
  | plus numeral =>
    exact List.forall_mem_cons.2
      ⟨by decide, fun c hc => isBlank_of_isDigit (numeral.digits c hc)⟩

/-- No blank occurs in an integer. -/
theorem IsInteger.isBlank_eq_false {i : Int} (h : IsInteger cs i) :
    ∀ c ∈ cs, Text.isBlank c = false := by
  cases h with
  | natural natural => exact natural.isBlank_eq_false
  | minus numeral =>
    exact List.forall_mem_cons.2
      ⟨by decide, fun c hc => isBlank_of_isDigit (numeral.digits c hc)⟩

end Parley.Decimal
