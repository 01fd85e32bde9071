/-
# Texts of integers and of truth values

What the text of a document looks like when the document is an integer or a truth value: a numeral
or a word with space around it (`spelling_of_parse_int`, `padded_of_parse_bool`).  The other way
round, a text that the readers of integers understand is the text of the same integer when it is the
text of a document at all, with one exception: as a document minus zero is a fraction
(`int_of_parse`).  A text that the reader of truth values understands is the text of a document only
when it is the bare word (`eq_boolText_of_parse`), and then of the same truth value
(`eq_bool_of_parse`).
-/

import Parley.Bag.Spelling
import Parley.Proofs.Decimal.Numeral
import Parley.Proofs.Json.Document
import Parley.Proofs.Json.Skip

namespace Parley.Json

variable {cs rest : List Char} {x : Json}

/-! ### How a document begins -/

/-- The characters that can begin a document. -/
def Begins (c : Char) : Prop :=
  c ∈ ['[', '\x7b', 'n', 't', 'f', '"', '-'] ∨ c.isDigit = true

/-- What starts with a digit has one at its front. -/
theorem startsWithDigit_cons {c : Char} (h : startsWithDigit (c :: rest) = true) :
    c.isDigit = true := by
  rw [startsWithDigit, Option.isSome_iff_exists] at h
  obtain ⟨d, hd⟩ := h
  exact (Decimal.digitValue?_eq_some_iff.1 hd).1

/-- An unsigned number begins with a digit. -/
theorem begins_of_magnitude {negative : Bool} {n : Number}
    (h : magnitude negative cs = some (n, rest)) : startsWithDigit cs = true := by
  by_contra hstart
  rw [magnitude, if_neg hstart] at h
  cases h

/-- A number begins with a minus or a digit. -/
theorem begins_of_number {n : Number} (h : number cs = some (n, rest)) :
    ∃ c tail, cs = c :: tail ∧ (c = '-' ∨ c.isDigit = true) := by
  unfold number at h
  split at h
  · exact ⟨'-', _, rfl, .inl rfl⟩
  · have hstart := begins_of_magnitude h
    cases cs with
    | nil => cases hstart
    | cons c tail => exact ⟨c, tail, rfl, .inr (startsWithDigit_cons hstart)⟩

/-- A scalar begins with a character that begins one. -/
theorem begins_of_scalar (h : scalar cs = some (x, rest)) :
    ∃ c tail, cs = c :: tail ∧ Begins c := by
  unfold scalar at h
  split at h
  case h_5 =>
    obtain ⟨⟨n, rest'⟩, hnumber, -⟩ := Option.map_eq_some_iff.1 h
    obtain ⟨c, tail, rfl, hc⟩ := begins_of_number hnumber
    refine ⟨c, tail, rfl, ?_⟩
    rcases hc with rfl | hdigit
    · exact .inl (by simp)
    · exact .inr hdigit
  all_goals exact ⟨_, _, rfl, .inl (by simp)⟩

/-- A document is an array, an object or a scalar, and its first character tells which. -/
theorem value_cases {depth : Nat} (h : value depth cs = some (x, rest)) :
    (∃ tail items, skipSpace cs = '[' :: tail ∧ x = .arr items) ∨
      (∃ tail fields, skipSpace cs = '\x7b' :: tail ∧ x = .obj fields) ∨
      scalar (skipSpace cs) = some (x, rest) := by
  cases depth with
  | zero =>
    rw [value] at h
    split at h
    · cases h
    · cases h
    · exact .inr (.inr h)
  | succ depth =>
    rw [value] at h
    split at h
    · rename_i tail heq
      obtain ⟨⟨items, _⟩, -, hx⟩ := Option.map_eq_some_iff.1 h
      exact .inl ⟨tail, items, heq, (Prod.mk.inj hx).1.symm⟩
    · rename_i tail heq
      obtain ⟨⟨fields, _⟩, -, hx⟩ := Option.map_eq_some_iff.1 h
      exact .inr (.inl ⟨tail, _, heq, (Prod.mk.inj hx).1.symm⟩)
    · exact .inr (.inr h)

/-- A value begins, behind blanks, with a character that begins one. -/
theorem begins_of_value {depth : Nat} (h : value depth cs = some (x, rest)) :
    ∃ c tail, skipSpace cs = c :: tail ∧ Begins c := by
  rcases value_cases h with ⟨tail, _, heq, -⟩ | ⟨tail, _, heq, -⟩ | hscalar
  · exact ⟨_, tail, heq, .inl (by simp)⟩
  · exact ⟨_, tail, heq, .inl (by simp)⟩
  · exact begins_of_scalar hscalar

/-- No character that begins a value is blank. -/
theorem isBlank_of_begins {c : Char} (h : Begins c) : Text.isBlank c = false := by
  rcases h with hmem | hdigit
  · simp only [List.mem_cons, List.not_mem_nil, or_false] at hmem
    rcases hmem with rfl | rfl | rfl | rfl | rfl | rfl | rfl <;> decide
  · exact Decimal.isBlank_of_isDigit hdigit

/-- The blanks of a document are blanks of a text. -/
theorem isBlank_of_isSpace {c : Char} (h : isSpace c = true) : Text.isBlank c = true := by
  simp only [isSpace, Bool.or_eq_true, beq_iff_eq] at h
  rcases h with ((rfl | rfl) | rfl) | rfl <;> decide

/-- What is no blank of a text is none of a document. -/
theorem isSpace_eq_false_of_isBlank {c : Char} (h : Text.isBlank c = false) :
    isSpace c = false :=
  Bool.eq_false_iff.2 fun hspace => Bool.false_ne_true (h.symm.trans (isBlank_of_isSpace hspace))

/-! ### Integers among the numbers -/

/-- A fraction is no integer. -/
theorem toReal_ne_int {negative : Bool} {d : Digits} {i : Int} :
    d.toReal negative ≠ some (.int i) := by
  intro h
  rw [Digits.toReal] at h
  obtain ⟨start, -, h⟩ := Option.bind_eq_some_iff.1 h
  obtain ⟨magnitude, -, h⟩ := Option.bind_eq_some_iff.1 h
  cases h

/-- Digits none of which was dropped are the digits of the number. -/
theorem readDigits_of_wholeDigits {acc d : Digits} (h : wholeDigits acc cs = (d, rest))
    (hexact : d.exact = true) :
    acc.exact = true ∧ ∃ ds, cs = ds ++ rest ∧
      Decimal.readDigits acc.significand ds = some d.significand := by
  induction cs generalizing acc with
  | nil =>
    cases h
    exact ⟨hexact, [], rfl, rfl⟩
  | cons c tail ih =>
    rw [wholeDigits] at h
    split at h
    · cases h
      exact ⟨hexact, [], rfl, rfl⟩
    · rename_i value hvalue
      split at h
      · rename_i hfits
        obtain ⟨-, ds, rfl, hread⟩ := ih h
        refine ⟨hfits.1, c :: ds, rfl, ?_⟩
        rw [Decimal.readDigits, hvalue]
        exact hread
      · exact absurd (ih h).1 Bool.false_ne_true

/-- Whole digits are read to their end. -/
theorem startsWithDigit_of_wholeDigits {acc d : Digits} (h : wholeDigits acc cs = (d, rest)) :
    startsWithDigit rest = false := by
  induction cs generalizing acc with
  | nil =>
    cases h
    rfl
  | cons c tail ih =>
    rw [wholeDigits] at h
    split at h
    · rename_i hvalue
      cases h
      simp [startsWithDigit, hvalue]
    · split at h
      · exact ih h
      · exact ih h

/-- The whole part of a number is a numeral when no digit was dropped. -/
theorem isNumeral_of_wholePart {d : Digits} (hstart : startsWithDigit cs = true)
    (h : wholePart cs = some (d, rest)) (hexact : d.exact = true) :
    ∃ core, cs = core ++ rest ∧ Decimal.IsNumeral core d.significand := by
  unfold wholePart at h
  split at h
  · rename_i tail
    split at h
    · cases h
    · cases h
      exact ⟨['0'], rfl, Decimal.readUnsigned?_eq_some_iff.1 rfl⟩
  · have hwhole := Option.some.inj h
    obtain ⟨-, ds, rfl, hread⟩ := readDigits_of_wholeDigits hwhole hexact
    have hne : ds ≠ [] := by
      rintro rfl
      rw [List.nil_append, startsWithDigit_of_wholeDigits hwhole] at hstart
      cases hstart
    obtain ⟨hdigits, hvalue⟩ := Decimal.readDigits_eq_some_iff.1 hread
    exact ⟨ds, rfl, hne, hdigits, hvalue⟩

/-- A number that goes on with an exponent is no integer. -/
theorem finish_of_exponentPart {negative : Bool} {d : Digits} {finish : Option Number} {i : Int}
    (h : exponentPart negative d cs finish = some (.int i, rest)) :
    finish = some (.int i) ∧ rest = cs := by
  have hscaled : ∀ tail, ((exponentDigits tail).bind fun found =>
      (Digits.toReal negative ⟨d.significand, d.exponent + found.1, false⟩).map (·, found.2)) ≠
        some (.int i, rest) := by
    intro tail heq
    obtain ⟨found, -, hreal⟩ := Option.bind_eq_some_iff.1 heq
    obtain ⟨n, hn, hpair⟩ := Option.map_eq_some_iff.1 hreal
    rw [(Prod.mk.inj hpair).1] at hn
    exact toReal_ne_int hn
  unfold exponentPart at h
  split at h
  · exact absurd h (hscaled _)
  · exact absurd h (hscaled _)
  · obtain ⟨n, hn, hpair⟩ := Option.map_eq_some_iff.1 h
    obtain ⟨rfl, rfl⟩ := Prod.mk.inj hpair
    exact ⟨hn, rfl⟩

/-- A number that goes on with a fraction is no integer. -/
theorem toNumber_of_fractionPart {negative : Bool} {d : Digits} {i : Int}
    (h : fractionPart negative d cs = some (.int i, rest)) :
    d.toNumber negative = some (.int i) ∧ rest = cs := by
  unfold fractionPart at h
  split at h
  · split at h
    · exact absurd (finish_of_exponentPart h).1 toReal_ne_int
    · cases h
  · exact finish_of_exponentPart h

/-- The digits of an integer, which is not minus zero. -/
theorem eq_of_toNumber {negative : Bool} {d : Digits} {i : Int}
    (h : d.toNumber negative = some (.int i)) :
    d.exact = true ∧ i = (if negative then -(d.significand : Int) else d.significand) ∧
      (negative = true → d.significand ≠ 0) := by
  rw [Digits.toNumber] at h
  split at h
  · rename_i hexact
    refine ⟨hexact, ?_⟩
    cases negative with
    | false =>
      cases h
      exact ⟨rfl, fun hno => absurd hno Bool.false_ne_true⟩
    | true =>
      rw [if_pos rfl] at h
      split at h
      · exact absurd h toReal_ne_int
      · rename_i hint
        cases h
        exact ⟨rfl, fun _ hzero => hint (.inl hzero)⟩
  · exact absurd h toReal_ne_int

/-- A magnitude that is an integer is spelled as a numeral, and as no negative zero. -/
theorem isNumeral_of_magnitude {negative : Bool} {i : Int}
    (h : magnitude negative cs = some (.int i, rest)) :
    ∃ core n, cs = core ++ rest ∧ Decimal.IsNumeral core n ∧
      i = (if negative then -(n : Int) else n) ∧ (negative = true → n ≠ 0) := by
  have hstart := begins_of_magnitude h
  rw [magnitude, if_pos hstart] at h
  obtain ⟨⟨d, after⟩, hwhole, hfraction⟩ := Option.bind_eq_some_iff.1 h
  obtain ⟨hnumber, rfl⟩ := toNumber_of_fractionPart hfraction
  obtain ⟨hexact, hvalue, hzero⟩ := eq_of_toNumber hnumber
  obtain ⟨core, hcore, hnumeral⟩ := isNumeral_of_wholePart hstart hwhole hexact
  exact ⟨core, d.significand, hcore, hnumeral, hvalue, hzero⟩

/-- How a document writes an integer: without a plus sign, and not as minus zero. -/
inductive IsWhole : List Char → Int → Prop
  | unsigned {core : List Char} {n : Nat} (numeral : Decimal.IsNumeral core n) : IsWhole core n
  | minus {core : List Char} {n : Nat} (numeral : Decimal.IsNumeral core n) (nonzero : n ≠ 0) :
      IsWhole ('-' :: core) (-n)

/-- A whole number is spelled as an integer. -/
theorem IsWhole.isInteger {core : List Char} {i : Int} (h : IsWhole core i) :
    Decimal.IsInteger core i := by
  cases h with
  | unsigned numeral => exact .natural (.unsigned numeral)
  | minus numeral nonzero => exact .minus numeral

/-- A whole number that is not negative is spelled as a natural number. -/
theorem IsWhole.isNatural {core : List Char} {n : Nat} (h : IsWhole core n) :
    Decimal.IsNatural core n := by
  generalize hi : (n : Int) = i at h
  cases h with
  | unsigned numeral =>
    obtain rfl := Int.ofNat.inj hi
    exact .unsigned numeral
  | minus numeral nonzero => omega

/-- A whole number is not spelled as a negative zero. -/
theorem IsWhole.ne_minusZero {core : List Char} {i : Int} (h : IsWhole core i) :
    core ≠ Decimal.minusZero := by
  intro heq
  cases h with
  | unsigned numeral => exact numeral.head_ne (.inr rfl) _ heq
  | minus numeral nonzero =>
    obtain rfl := (List.cons.inj heq).2
    exact nonzero numeral.value.symm

/-- A number that is an integer is written as one. -/
theorem isWhole_of_number {i : Int} (h : number cs = some (.int i, rest)) :
    ∃ core, cs = core ++ rest ∧ IsWhole core i := by
  unfold number at h
  split at h
  · obtain ⟨core, n, rfl, hnumeral, rfl, hzero⟩ := isNumeral_of_magnitude h
    exact ⟨'-' :: core, rfl, .minus hnumeral (hzero rfl)⟩
  · obtain ⟨core, n, rfl, hnumeral, rfl, -⟩ := isNumeral_of_magnitude h
    exact ⟨core, rfl, .unsigned hnumeral⟩

/-! ### Whole texts -/

/-- The space before a document. -/
theorem exists_space_append (cs : List Char) :
    ∃ before, cs = before ++ skipSpace cs ∧ ∀ c ∈ before, isSpace c = true :=
  ⟨cs.takeWhile isSpace, List.takeWhile_append_dropWhile.symm,
    List.all_eq_true.1 List.all_takeWhile⟩

/-- After the document of a text there is only space. -/
theorem exists_value_of_parse {text : String} (h : parse text = some x) :
    ∃ rest, value maxDepth text.toList = some (x, rest) ∧ ∀ c ∈ rest, isSpace c = true := by
  obtain ⟨rest, hvalue, hempty⟩ := exists_of_whole h
  obtain ⟨space, hspace, hall⟩ := exists_space_append rest
  rw [hempty, List.append_nil] at hspace
  exact ⟨rest, hvalue, hspace ▸ hall⟩

/-- The text of a scalar is the scalar with space around it. -/
theorem exists_scalar_of_parse {text : String} (h : parse text = some x)
    (harr : ∀ items, x ≠ .arr items) (hobj : ∀ fields, x ≠ .obj fields) :
    ∃ before cs rest, text.toList = before ++ cs ∧ scalar cs = some (x, rest) ∧
      (∀ c ∈ before, isSpace c = true) ∧ ∀ c ∈ rest, isSpace c = true := by
  obtain ⟨rest, hvalue, hrest⟩ := exists_value_of_parse h
  obtain ⟨before, hsplit, hbefore⟩ := exists_space_append text.toList
  rcases value_cases hvalue with ⟨_, items, -, hx⟩ | ⟨_, fields, -, hx⟩ | hscalar
  · exact absurd hx (harr items)
  · exact absurd hx (hobj fields)
  · exact ⟨before, _, rest, hsplit, hscalar, hbefore, hrest⟩

/-- The text of an integer is a numeral with space around it. -/
theorem spelling_of_parse_int {text : String} {i : Int} (h : parse text = some (.num (.int i))) :
    ∃ core, Text.Padded isSpace core text.toList ∧ IsWhole core i := by
  obtain ⟨before, cs, rest, htext, hscalar, hbefore, hrest⟩ :=
    exists_scalar_of_parse h (fun _ => nofun) (fun _ => nofun)
  unfold scalar at hscalar
  split at hscalar
  case h_5 =>
    obtain ⟨⟨n, rest'⟩, hnumber, hpair⟩ := Option.map_eq_some_iff.1 hscalar
    cases hpair
    obtain ⟨core, rfl, hwhole⟩ := isWhole_of_number hnumber
    exact ⟨core, ⟨before, rest, by rw [htext, List.append_assoc], hbefore, hrest⟩, hwhole⟩
  all_goals
    obtain ⟨_, -, hpair⟩ := Option.map_eq_some_iff.1 hscalar
    cases hpair

/-- The text of a truth value is its word with space around it. -/
theorem padded_of_parse_bool {text : String} {value : Bool}
    (h : parse text = some (.bool value)) :
    Text.Padded isSpace (Bag.boolText value).toList text.toList := by
  obtain ⟨before, cs, rest, htext, hscalar, hbefore, hrest⟩ :=
    exists_scalar_of_parse h (fun _ => nofun) (fun _ => nofun)
  refine ⟨before, rest, ?_, hbefore, hrest⟩
  unfold scalar at hscalar
  split at hscalar
  case h_2 | h_3 =>
    obtain ⟨after, hword, hpair⟩ := Option.map_eq_some_iff.1 hscalar
    cases hpair
    rw [htext, eq_of_word hword, List.append_assoc]
    rfl
  all_goals
    obtain ⟨_, -, hpair⟩ := Option.map_eq_some_iff.1 hscalar
    cases hpair

/-! ### Numerals among the documents -/

/-- When a document comes after blanks, these are space. -/
theorem skipSpace_of_blanks {before : List Char} {c first : Char} {tail : List Char}
    (hbefore : ∀ c ∈ before, Text.isBlank c = true) (hc : Text.isBlank c = false)
    (hfirst : Text.isBlank first = false)
    (hskip : skipSpace (before ++ c :: rest) = first :: tail) :
    skipSpace (before ++ c :: rest) = c :: rest := by
  induction before with
  | nil => exact skipSpace_cons (isSpace_eq_false_of_isBlank hc) rest
  | cons b before ih =>
    rw [List.forall_mem_cons] at hbefore
    cases hspace : isSpace b with
    | true =>
      have hdrop : skipSpace (b :: before ++ c :: rest) = skipSpace (before ++ c :: rest) := by
        rw [skipSpace, skipSpace, List.cons_append, List.dropWhile_cons_of_pos hspace]
      rw [hdrop] at hskip ⊢
      exact ih hbefore.2 hskip
    | false =>
      rw [List.cons_append, skipSpace_cons hspace] at hskip
      rw [← (List.cons.inj hskip).1, hbefore.1] at hfirst
      cases hfirst

/-- What is read after blanks is read where they end. -/
theorem value_of_blanks {depth : Nat} {before : List Char} {c : Char}
    (hbefore : ∀ c ∈ before, Text.isBlank c = true) (hc : Text.isBlank c = false)
    {after : List Char} (h : value depth (before ++ c :: after) = some (x, rest)) :
    value depth (c :: after) = some (x, rest) := by
  obtain ⟨first, tail, hskip, hbegins⟩ := begins_of_value h
  have heq := skipSpace_of_blanks hbefore hc (isBlank_of_begins hbegins) hskip
  rw [← heq, value_skipSpace]
  exact h

/-- The first character of an integer, which is a digit or a sign. -/
def Leads (c : Char) : Prop :=
  c = '+' ∨ c = '-' ∨ c.isDigit = true

/-- An integer begins with a sign or a digit. -/
theorem leads_of_isInteger {i : Int} {core : List Char} (h : Decimal.IsInteger core i) :
    ∃ c tail, core = c :: tail ∧ Leads c := by
  rcases h with ⟨hnumeral | hnumeral⟩ | hnumeral
  · cases core with
    | nil => exact absurd rfl hnumeral.nonempty
    | cons c tail => exact ⟨c, tail, rfl, .inr (.inr (hnumeral.digits c (by simp)))⟩
  · exact ⟨'+', _, rfl, .inl rfl⟩
  · exact ⟨'-', _, rfl, .inr (.inl rfl)⟩

/-- Neither a sign nor a digit is a blank. -/
theorem Leads.isSpace_eq_false {c : Char} (h : Leads c) : isSpace c = false := by
  rcases h with rfl | rfl | hdigit
  · rfl
  · rfl
  · exact isSpace_eq_false_of_isBlank (Decimal.isBlank_of_isDigit hdigit)

/-- An integer begins as no other document. -/
theorem Leads.ne {c : Char} (h : Leads c) : ∀ d ∈ ['[', '\x7b', 'n', 't', 'f', '"'], c ≠ d := by
  rintro d hd rfl
  simp only [List.mem_cons, List.not_mem_nil, or_false] at hd
  unfold Leads at h
  rcases hd with rfl | rfl | rfl | rfl | rfl | rfl <;> revert h <;> decide

/-- What begins as an integer is read as a number. -/
theorem number_of_value {depth : Nat} {c : Char} (hc : Leads c) {tail : List Char}
    (h : value depth (c :: tail) = some (x, rest)) :
    ∃ n, number (c :: tail) = some (n, rest) ∧ x = .num n := by
  have hne := hc.ne
  rw [value_of_scalar hc.isSpace_eq_false (hne _ (by simp)) (hne _ (by simp))] at h
  unfold scalar at h
  split at h
  case h_5 =>
    obtain ⟨⟨n, rest'⟩, hnumber, hpair⟩ := Option.map_eq_some_iff.1 h
    cases hpair
    exact ⟨n, hnumber, rfl⟩
  all_goals
    rename_i heq
    exact absurd (List.cons.inj heq).1 (hne _ (by simp))

/-- A number stops before blanks. -/
theorem stops_of_isBlank {after : List Char} (h : ∀ c ∈ after, Text.isBlank c = true) :
    Stops after := by
  intro c hc
  have hblank := h c (List.mem_of_mem_head? hc)
  have hdigit : Decimal.digitValue? c = none := by
    refine Option.eq_none_iff_forall_ne_some.2 fun d hd => ?_
    rw [Decimal.isBlank_of_isDigit (Decimal.digitValue?_eq_some_iff.1 hd).1] at hblank
    cases hblank
  refine ⟨hdigit, ?_, ?_, ?_⟩ <;> rintro rfl <;> cases hblank

/-- A digit other than `0` is the first of no numeral for zero. -/
theorem ne_zero_of_head {c : Char} {tail : List Char} {n : Nat}
    (h : Decimal.IsNumeral (c :: tail) n) (hc : c ≠ '0') : n ≠ 0 := by
  have hread : Decimal.readDigits 0 (c :: tail) = some n :=
    Decimal.readDigits_eq_some_iff.2 ⟨h.digits, h.value⟩
  obtain ⟨d, hd, htail⟩ := Option.bind_eq_some_iff.1 hread
  have hle := le_of_readDigits htail
  obtain ⟨hdigit, rfl⟩ := Decimal.digitValue?_eq_some_iff.1 hd
  have hlow : '0'.toNat ≤ c.toNat := ((Decimal.isDigit_iff c).1 hdigit).1
  have hne : c.toNat ≠ '0'.toNat := fun heq => hc (Char.toNat_inj.1 heq)
  omega

/-- The whole part of a number begins with a numeral that fits and ends with it.  A zero in front
of other digits is refused. -/
theorem wholePart_of_isNumeral {core after : List Char} {n : Nat} {d : Digits}
    (hnumeral : Decimal.IsNumeral core n) (hfits : n ≤ maxSignificand) (hafter : Stops after)
    (h : wholePart (core ++ after) = some (d, rest)) :
    d = ⟨n, 0, true⟩ ∧ rest = after ∧ (n = 0 → core = ['0']) := by
  cases core with
  | nil => exact absurd rfl hnumeral.nonempty
  | cons c tail =>
    by_cases hc : c = '0'
    · subst hc
      rw [List.cons_append, wholePart] at h
      split at h
      · cases h
      · rename_i hstart
        obtain rfl : tail = [] := by
          cases tail with
          | nil => rfl
          | cons c' tail =>
            have hdigit : c'.isDigit = true := hnumeral.digits c' (by simp)
            have hvalue := Decimal.digitValue?_eq_some_iff.2 ⟨hdigit, rfl⟩
            exact absurd (by rw [List.cons_append, startsWithDigit, hvalue]; rfl) hstart
        obtain rfl : 0 = n := hnumeral.value
        cases h
        exact ⟨rfl, rfl, fun _ => rfl⟩
    · have hread : Decimal.readDigits 0 (c :: tail) = some n :=
        Decimal.readDigits_eq_some_iff.2 ⟨hnumeral.digits, hnumeral.value⟩
      unfold wholePart at h
      split at h
      · rename_i heq
        exact absurd (List.cons.inj heq).1 hc
      · rw [wholeDigits_of_readDigits hread hfits, wholeDigits_of_stops hafter] at h
        cases h
        exact ⟨rfl, rfl, fun hzero => absurd hzero (ne_zero_of_head hnumeral hc)⟩

/-- A numeral that fits is the number of its digits. -/
theorem toNumber_of_magnitude {negative : Bool} {core after : List Char} {n : Nat} {m : Number}
    (hnumeral : Decimal.IsNumeral core n) (hfits : n ≤ maxSignificand) (hafter : Stops after)
    (h : magnitude negative (core ++ after) = some (m, rest)) :
    Digits.toNumber negative ⟨n, 0, true⟩ = some m ∧ (n = 0 → core = ['0']) := by
  rw [magnitude, if_pos (begins_of_magnitude h)] at h
  obtain ⟨⟨d, more⟩, hwhole, hfraction⟩ := Option.bind_eq_some_iff.1 h
  obtain ⟨rfl, rfl, hzero⟩ := wholePart_of_isNumeral hnumeral hfits hafter hwhole
  have hend : fractionPart negative ⟨n, 0, true⟩ more = some (m, rest) := hfraction
  rw [fractionPart_of_stops hafter] at hend
  obtain ⟨m', hnumber, hpair⟩ := Option.map_eq_some_iff.1 hend
  cases hpair
  exact ⟨hnumber, hzero⟩

/-- The numeral of an integer of 64 bits is read as this integer or as minus zero, if as a
document at all. -/
theorem int_of_number {core after : List Char} {i : Int} {m : Number}
    (hinteger : Decimal.IsInteger core i) (hmin : minInt ≤ i) (hmax : i ≤ maxInt)
    (hafter : Stops after) (h : number (core ++ after) = some (m, rest)) :
    m = .int i ∨ core = Decimal.minusZero := by
  have hbounds : minInt = -(9223372036854775808 : Int) ∧ maxInt = 18446744073709551615 ∧
      maxSignificand = 18446744073709551615 := by decide
  obtain ⟨hminInt, hmaxInt, hsignificand⟩ := hbounds
  rcases hinteger with ⟨hnumeral | hnumeral⟩ | hnumeral
  case natural.unsigned n =>
    have hmagnitude : magnitude false (core ++ after) = some (m, rest) := by
      unfold number at h
      split at h
      · rename_i heq
        cases core with
        | nil => exact absurd rfl hnumeral.nonempty
        | cons c tail =>
          rw [List.cons_append] at heq
          have hminus := hnumeral.head_ne (.inr rfl) tail
          exact absurd (by rw [(List.cons.inj heq).1]) hminus
      · exact h
    obtain ⟨hnumber, -⟩ := toNumber_of_magnitude hnumeral (by omega) hafter hmagnitude
    cases hnumber
    exact .inl rfl
  case natural.plus n cs =>
    have hmagnitude : magnitude false ('+' :: (cs ++ after)) = some (m, rest) := h
    exact absurd (begins_of_magnitude hmagnitude) Bool.false_ne_true
  case minus cs n =>
    have hmagnitude : magnitude true (cs ++ after) = some (m, rest) := h
    obtain ⟨hnumber, hzero⟩ := toNumber_of_magnitude hnumeral (by omega) hafter hmagnitude
    by_cases hn : n = 0
    · exact .inr (by rw [hzero hn, Decimal.minusZero])
    · have hint : ¬ (n = 0 ∨ -(n : Int) < minInt) := by omega
      rw [Digits.toNumber, if_pos rfl, if_pos rfl, if_neg hint] at hnumber
      cases hnumber
      exact .inl rfl

/-- A text that others read as an integer of 64 bits is the text of this integer, or of no
document, or of minus zero. -/
theorem int_of_parse {text : String} {core : List Char} {i : Int}
    (hpadded : Text.Padded Text.isBlank core text.toList) (hinteger : Decimal.IsInteger core i)
    (hmin : minInt ≤ i) (hmax : i ≤ maxInt) (h : parse text = some x) :
    x = .num (.int i) ∨ core = Decimal.minusZero := by
  obtain ⟨rest, hvalue, -⟩ := exists_value_of_parse h
  obtain ⟨before, after, htext, hbefore, hafter⟩ := hpadded
  obtain ⟨c, tail, rfl, hleads⟩ := leads_of_isInteger hinteger
  have hc : Text.isBlank c = false := hinteger.isBlank_eq_false c (by simp)
  rw [htext, List.append_assoc, List.cons_append] at hvalue
  obtain ⟨m, hnumber, rfl⟩ := number_of_value hleads (value_of_blanks hbefore hc hvalue)
  rcases int_of_number hinteger hmin hmax (stops_of_isBlank hafter) hnumber with rfl | hcore
  · exact .inl rfl
  · exact .inr hcore

/-! ### Words among the documents -/

/-- No document begins with a capital letter. -/
theorem toLower_of_begins {c : Char} (h : Begins c) : c.toLower = c := by
  rcases h with hmem | hdigit
  · simp only [List.mem_cons, List.not_mem_nil, or_false] at hmem
    rcases hmem with rfl | rfl | rfl | rfl | rfl | rfl | rfl <;> rfl
  · have hhigh : c ≤ '9' := ((Decimal.isDigit_iff c).1 hdigit).2
    have hupper : ¬ (c.val ≥ 'A'.val ∧ c.val ≤ 'Z'.val) :=
      fun h => absurd (Char.le_trans h.1 hhigh) (by decide)
    exact dif_neg hupper

/-- A word in any case that is required in lower case is in lower case. -/
theorem eq_of_word_of_toLower {w tail : List Char} (hlower : tail.map Char.toLower = w)
    (h : word w tail = some rest) : tail = w := by
  have htail := eq_of_word h
  have hlength : rest.length = 0 := by
    have := congrArg List.length htail
    rw [← List.length_map Char.toLower, hlower, List.length_append] at this
    omega
  rw [htail, List.eq_nil_of_length_eq_zero hlength, List.append_nil]

/-- What begins a word in any case begins it in lower case when a document begins there. -/
theorem scalar_of_toLower {depth : Nat} {c letter : Char} {tail : List Char}
    (hletter : letter = 't' ∨ letter = 'f') (hlower : c.toLower = letter)
    (h : value depth (c :: tail) = some (x, rest)) :
    c = letter ∧ scalar (letter :: tail) = some (x, rest) := by
  have hspace : isSpace c = false := by
    refine Bool.eq_false_iff.2 fun hspace => ?_
    simp only [isSpace, Bool.or_eq_true, beq_iff_eq] at hspace
    rcases hspace with ((rfl | rfl) | rfl) | rfl <;>
      rcases hletter with rfl | rfl <;> cases hlower
  obtain ⟨first, more, hskip, hbegins⟩ := begins_of_value h
  rw [skipSpace_cons hspace] at hskip
  obtain ⟨rfl, rfl⟩ := List.cons.inj hskip
  obtain rfl : c = letter := (toLower_of_begins hbegins).symm.trans hlower
  have hopening : c ≠ '[' ∧ c ≠ '\x7b' := by
    rcases hletter with rfl | rfl <;> decide
  rw [value_of_scalar hspace hopening.1 hopening.2] at h
  exact ⟨rfl, h⟩

/-- A text that others read as a truth value is the word itself when it is the text of a
document. -/
theorem eq_boolText_of_parse {text : String} {value : Bool} (hspells : SpellsBool text value)
    (h : parse text = some x) : text = Bag.boolText value := by
  obtain ⟨rest, hvalue, -⟩ := exists_value_of_parse h
  rw [SpellsBool] at hspells
  apply String.toList_injective
  cases htext : text.toList with
  | nil =>
    rw [htext] at hspells
    cases value <;> cases hspells
  | cons c tail =>
    rw [htext] at hspells hvalue
    cases value with
    | true =>
      obtain ⟨hc, htail⟩ := List.cons.inj hspells
      obtain ⟨rfl, hscalar⟩ := scalar_of_toLower (.inl rfl) hc hvalue
      obtain ⟨after, hword, -⟩ := Option.map_eq_some_iff.1 hscalar
      rw [eq_of_word_of_toLower htail hword]
      rfl
    | false =>
      obtain ⟨hc, htail⟩ := List.cons.inj hspells
      obtain ⟨rfl, hscalar⟩ := scalar_of_toLower (.inr rfl) hc hvalue
      obtain ⟨after, hword, -⟩ := Option.map_eq_some_iff.1 hscalar
      rw [eq_of_word_of_toLower htail hword]
      rfl

/-- The word of a truth value with space around it is the text of this truth value. -/
theorem eq_bool_of_parse {text : String} {value : Bool}
    (hpadded : Text.Padded isSpace (Bag.boolText value).toList text.toList)
    (h : parse text = some x) : x = .bool value := by
  obtain ⟨rest, hvalue, -⟩ := exists_value_of_parse h
  obtain ⟨before, after, htext, hbefore, -⟩ := hpadded
  have hblank : ∀ c ∈ before, Text.isBlank c = true :=
    fun c hc => isBlank_of_isSpace (hbefore c hc)
  rw [htext, List.append_assoc] at hvalue
  cases value with
  | true =>
    have hword := value_of_blanks (c := 't') hblank (by decide) hvalue
    rw [value_of_scalar (by decide) (by decide) (by decide)] at hword
    cases hword
    rfl
  | false =>
    have hword := value_of_blanks (c := 'f') hblank (by decide) hvalue
    rw [value_of_scalar (by decide) (by decide) (by decide)] at hword
    cases hword
    rfl

end Parley.Json
