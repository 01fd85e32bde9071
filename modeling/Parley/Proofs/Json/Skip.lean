/-
# Values passed over

What is read as a document can also be passed over, and then the same is left
(`skip_of_value`).  The reader goes down into a document, while passing over keeps a list of the
arrays and objects that are still open; each of its rounds takes at least one character, so
the rounds it may make are enough.
-/

import Mathlib.Data.List.DropRight
import Parley.Json.Reader

namespace Parley.Json

variable {cs rest : List Char} {x : Json}

/-! ### Characters taken -/

/-- To skip blanks leaves no more than there was. -/
theorem length_skipSpace_le (cs : List Char) : (skipSpace cs).length ≤ cs.length :=
  (List.dropWhile_suffix isSpace).length_le

/-- A character behind blanks leaves less than there was. -/
theorem length_lt_of_skipSpace {c : Char} (h : skipSpace cs = c :: rest) :
    rest.length < cs.length := by
  have hle := length_skipSpace_le cs
  rw [h, List.length_cons] at hle
  exact hle

/-- An expected character leaves less than there was. -/
theorem length_lt_of_expect {c : Char} (h : expect c cs = some rest) :
    rest.length < cs.length := by
  unfold expect at h
  split at h
  · rename_i heq
    split at h
    · cases h
      exact length_lt_of_skipSpace heq
    · cases h
  · cases h

/-- The word that was required, and what follows it. -/
theorem eq_of_word {w : List Char} (h : word w cs = some rest) : cs = w ++ rest := by
  induction w generalizing cs with
  | nil =>
    cases h
    rfl
  | cons c w ih =>
    cases cs with
    | nil => cases h
    | cons d cs =>
      rw [word] at h
      split at h
      · rename_i heq
        rw [heq, ih h]
        rfl
      · cases h

/-- A word leaves no more than there was. -/
theorem length_le_of_word {w : List Char} (h : word w cs = some rest) :
    rest.length ≤ cs.length := by
  rw [eq_of_word h, List.length_append]
  exact Nat.le_add_left _ _

/-- Four hexadecimal digits leave no more than there was. -/
theorem length_le_of_hexQuad {n : Nat} (h : hexQuad cs = some (n, rest)) :
    rest.length ≤ cs.length := by
  unfold hexQuad at h
  split at h
  · simp only [Option.bind_eq_bind, Option.bind_eq_some_iff, Option.some.injEq,
      Prod.mk.injEq] at h
    obtain ⟨_, -, _, -, _, -, _, -, -, rfl⟩ := h
    simp only [List.length_cons]
    omega
  · cases h

/-! ### Strings -/

/-- A character written by its code is one code unit, or two with an escape each. -/
theorem hexQuad_of_unicodeEscape {c : Char} (h : unicodeEscape cs = some (c, rest)) :
    (∃ unit, hexQuad cs = some (unit, rest)) ∨
      ∃ high low mid, hexQuad cs = some (high, '\\' :: 'u' :: mid) ∧
        hexQuad mid = some (low, rest) := by
  unfold unicodeEscape at h
  obtain ⟨⟨unit, after⟩, hunit, h⟩ := Option.bind_eq_some_iff.1 h
  replace h := (Option.ite_none_left_eq_some.1 h).2
  split at h
  · split at h
    · rename_i mid
      obtain ⟨⟨low, after'⟩, hlow, h⟩ := Option.bind_eq_some_iff.1 h
      have hpair := Option.some.inj (Option.ite_none_right_eq_some.1 h).2
      exact .inr ⟨unit, low, mid, hunit, (Prod.mk.inj hpair).2 ▸ hlow⟩
    · cases h
  · cases h
    exact .inl ⟨unit, hunit⟩

/-- A plain character is skipped as it is. -/
theorem skipString_plain {c : Char} (hquote : c ≠ '"') (hslash : c ≠ '\\')
    (hcontrol : ¬ c.toNat < 0x20) (fuel : Nat) (cs : List Char) :
    skipString (fuel + 1) (c :: cs) = skipString fuel cs := by
  conv => lhs; unfold skipString
  simp only [if_neg hquote, if_neg hslash, if_neg hcontrol]

/-- A simple escape is skipped with its backslash. -/
theorem skipString_simpleEscape {c meant : Char} (hu : c ≠ 'u')
    (h : simpleEscape? c = some meant) (fuel : Nat) (cs : List Char) :
    skipString (fuel + 1) ('\\' :: c :: cs) = skipString fuel cs := by
  conv => lhs; unfold skipString
  rw [if_neg (by decide), if_pos rfl]
  split
  · contradiction
  · rename_i heq
    exact absurd (List.cons.inj heq).1 hu
  · rename_i heq
    cases heq
    rw [h, Option.bind_some]

/-- An escaped code is skipped with its four digits. -/
theorem skipString_hexQuad {n : Nat} (h : hexQuad cs = some (n, rest)) (fuel : Nat) :
    skipString (fuel + 1) ('\\' :: 'u' :: cs) = skipString fuel rest := by
  conv => lhs; unfold skipString
  rw [if_neg (by decide), if_pos rfl]
  simp only [h, Option.bind_some]

/-- An escape by code is passed over in a round for each of its code units. -/
theorem skipString_unicodeEscape {fuel : Nat} {c : Char}
    (h : unicodeEscape cs = some (c, rest)) (hfuel : cs.length + 1 < fuel) :
    rest.length ≤ cs.length ∧ ∃ fuel', rest.length < fuel' ∧
      skipString fuel ('\\' :: 'u' :: cs) = skipString fuel' rest := by
  obtain ⟨fuel, rfl⟩ : ∃ k, fuel = k + 1 := ⟨fuel - 1, by omega⟩
  rcases hexQuad_of_unicodeEscape h with ⟨unit, hunit⟩ | ⟨high, low, mid, hhigh, hlow⟩
  · have hlength := length_le_of_hexQuad hunit
    exact ⟨hlength, fuel, by omega, skipString_hexQuad hunit fuel⟩
  · have hfirst := length_le_of_hexQuad hhigh
    have hsecond := length_le_of_hexQuad hlow
    simp only [List.length_cons] at hfirst
    obtain ⟨fuel, rfl⟩ : ∃ k, fuel = k + 1 := ⟨fuel - 1, by omega⟩
    refine ⟨by omega, fuel, by omega, ?_⟩
    rw [skipString_hexQuad hhigh, skipString_hexQuad hlow]

/-- What is read as the rest of a string is passed over as one. -/
theorem skipString_of_stringBody {fuel fuel' : Nat} {body : List Char}
    (h : stringBody fuel cs = some (body, rest)) (hfuel : cs.length < fuel') :
    skipString fuel' cs = some rest ∧ rest.length < cs.length := by
  induction fuel generalizing cs body fuel' with
  | zero => cases h
  | succ fuel ih =>
    cases cs with
    | nil => cases h
    | cons c cs =>
      obtain ⟨fuel', rfl⟩ : ∃ k, fuel' = k + 1 := ⟨fuel' - 1, by omega⟩
      have hcs : cs.length < fuel' := Nat.lt_of_succ_lt_succ hfuel
      -- one round of the reader: it took the closing quote, an escape or a plain character
      unfold stringBody at h
      by_cases hquote : c = '"'
      · subst hquote
        cases h
        refine ⟨?_, Nat.lt_succ_self _⟩
        unfold skipString
        rw [if_pos rfl]
      rw [if_neg hquote] at h
      by_cases hslash : c = '\\'
      · subst hslash
        rw [if_pos rfl] at h
        split at h
        · cases h
        · rename_i cs
          obtain ⟨⟨c, mid⟩, hescape, h⟩ := Option.bind_eq_some_iff.1 h
          obtain ⟨⟨tail, _⟩, htail, hpair⟩ := Option.map_eq_some_iff.1 h
          cases hpair
          obtain ⟨hmid, more, hmore, hskip⟩ :=
            skipString_unicodeEscape hescape (Nat.lt_of_succ_lt hfuel)
          obtain ⟨hrest, hlength⟩ := ih htail hmore
          refine ⟨hskip.trans hrest, ?_⟩
          simp only [List.length_cons]
          omega
        · rename_i c cs hu
          obtain ⟨meant, hescape, h⟩ := Option.bind_eq_some_iff.1 h
          obtain ⟨⟨tail, _⟩, htail, hpair⟩ := Option.map_eq_some_iff.1 h
          cases hpair
          obtain ⟨hrest, hlength⟩ := ih htail (Nat.lt_of_succ_lt hcs)
          refine ⟨(skipString_simpleEscape hu hescape _ cs).trans hrest, ?_⟩
          simp only [List.length_cons]
          omega
      · rw [if_neg hslash] at h
        by_cases hcontrol : c.toNat < 0x20
        · rw [if_pos hcontrol] at h
          cases h
        · rw [if_neg hcontrol] at h
          obtain ⟨⟨tail, _⟩, htail, hpair⟩ := Option.map_eq_some_iff.1 h
          cases hpair
          obtain ⟨hrest, hlength⟩ := ih htail hcs
          exact ⟨(skipString_plain hquote hslash hcontrol _ cs).trans hrest,
            Nat.lt_succ_of_lt hlength⟩

/-- What is read as a string is skipped as one. -/
theorem skipString_of_stringTail {s : String} (h : stringTail cs = some (s, rest)) :
    skipString (cs.length + 1) cs = some rest ∧ rest.length < cs.length := by
  obtain ⟨⟨body, _⟩, hbody, hpair⟩ := Option.map_eq_some_iff.1 h
  cases hpair
  exact skipString_of_stringBody hbody (Nat.lt_succ_self _)

/-! ### Numbers -/

/-- Pass over the whole digits of a number. -/
def skipWhole : List Char → Option (List Char)
  | '0' :: rest => if startsWithDigit rest then none else some rest
  | cs => if startsWithDigit cs then some (takeDigits 0 cs).2 else none

/-- Pass over the fraction of a number. -/
def skipFraction : List Char → Option (List Char)
  | '.' :: rest => if startsWithDigit rest then some (takeDigits 0 rest).2 else none
  | rest => some rest

/-- Pass over the exponent of a number. -/
def skipExponent : List Char → Option (List Char)
  | 'e' :: rest => (exponentDigits rest).map (·.2)
  | 'E' :: rest => (exponentDigits rest).map (·.2)
  | rest => some rest

/-- Drop the sign of a number. -/
def skipMinus : List Char → List Char
  | '-' :: cs => cs
  | cs => cs

/-- A number is skipped part by part. -/
theorem skipNumber_eq (cs : List Char) :
    skipNumber cs = ((skipWhole (skipMinus cs)).bind skipFraction).bind skipExponent := rfl

/-- The digits that are read are those that are passed over, whatever they amount to. -/
theorem wholeDigits_snd (acc : Digits) (n : Nat) (cs : List Char) :
    (wholeDigits acc cs).2 = (takeDigits n cs).2 := by
  induction cs generalizing acc n with
  | nil => rfl
  | cons c cs ih =>
    rw [wholeDigits, takeDigits]
    cases Decimal.digitValue? c with
    | none => rfl
    | some d =>
      dsimp only
      split
      · exact ih _ _
      · exact ih _ _

/-- Digits of a fraction are passed, whether they still count or not. -/
theorem fractionDigits_snd (full : Bool) (acc : Digits) (n : Nat) (cs : List Char) :
    (fractionDigits full acc cs).2 = (takeDigits n cs).2 := by
  induction cs generalizing full acc n with
  | nil => rfl
  | cons c cs ih =>
    rw [fractionDigits, takeDigits]
    cases Decimal.digitValue? c with
    | none => rfl
    | some d =>
      dsimp only
      split
      · exact ih _ _ _
      · exact ih _ _ _

/-- Digits leave no more than there was. -/
theorem length_takeDigits_le (n : Nat) (cs : List Char) :
    (takeDigits n cs).2.length ≤ cs.length := by
  induction cs generalizing n with
  | nil => exact Nat.le_refl _
  | cons c cs ih =>
    rw [takeDigits]
    split
    · exact Nat.le_refl _
    · exact Nat.le_succ_of_le (ih _)

/-- Where there is a digit, digits leave less than there was. -/
theorem length_takeDigits_lt (n : Nat) (h : startsWithDigit cs = true) :
    (takeDigits n cs).2.length < cs.length := by
  cases cs with
  | nil => cases h
  | cons c cs =>
    obtain ⟨d, hd⟩ := Option.isSome_iff_exists.1 h
    simp only [takeDigits, hd]
    exact Nat.lt_succ_of_le (length_takeDigits_le _ cs)

/-- A whole part that does not begin with a zero is skipped digit by digit. -/
theorem skipWhole_of_ne_zero (hzero : ∀ tail, cs ≠ '0' :: tail)
    (hstart : startsWithDigit cs = true) : skipWhole cs = some (takeDigits 0 cs).2 := by
  unfold skipWhole
  split
  · exact absurd rfl (hzero _)
  · rw [if_pos hstart]

/-- Without a dot there is no fraction to skip. -/
theorem skipFraction_of_ne_dot (hdot : ∀ tail, cs ≠ '.' :: tail) : skipFraction cs = some cs := by
  unfold skipFraction
  split
  · exact absurd rfl (hdot _)
  · rfl

/-- Without a mark there is no exponent to skip. -/
theorem skipExponent_of_ne_mark (hlower : ∀ tail, cs ≠ 'e' :: tail)
    (hupper : ∀ tail, cs ≠ 'E' :: tail) : skipExponent cs = some cs := by
  unfold skipExponent
  split
  · exact absurd rfl (hlower _)
  · exact absurd rfl (hupper _)
  · rfl

/-- Without a minus there is no sign to skip. -/
theorem skipMinus_of_ne_minus (hminus : ∀ tail, cs ≠ '-' :: tail) : skipMinus cs = cs := by
  unfold skipMinus
  split
  · exact absurd rfl (hminus _)
  · rfl

/-- What is read as a whole part is skipped as one. -/
theorem skipWhole_of_wholePart {d : Digits} (hstart : startsWithDigit cs = true)
    (h : wholePart cs = some (d, rest)) : skipWhole cs = some rest := by
  unfold wholePart at h
  split at h
  · obtain ⟨hdigit, hpair⟩ := Option.ite_none_left_eq_some.1 h
    cases hpair
    exact if_neg hdigit
  · rename_i hzero
    have hrest := congrArg Prod.snd (Option.some.inj h)
    rw [wholeDigits_snd _ 0] at hrest
    rw [skipWhole_of_ne_zero hzero hstart, hrest]

/-- What is read as an exponent is skipped as one. -/
theorem skipExponent_of_exponentPart {negative : Bool} {d : Digits} {finish : Option Number}
    {n : Number} (h : exponentPart negative d cs finish = some (n, rest)) :
    skipExponent cs = some rest := by
  have hscaled : ∀ tail, ((exponentDigits tail).bind fun found =>
      (Digits.toReal negative ⟨d.significand, d.exponent + found.1, false⟩).map (·, found.2)) =
        some (n, rest) → (exponentDigits tail).map (·.2) = some rest := by
    intro tail heq
    obtain ⟨found, hdigits, hreal⟩ := Option.bind_eq_some_iff.1 heq
    obtain ⟨_, -, hpair⟩ := Option.map_eq_some_iff.1 hreal
    rw [hdigits, ← (Prod.mk.inj hpair).2]
    rfl
  unfold exponentPart at h
  split at h
  · exact hscaled _ h
  · exact hscaled _ h
  · rename_i hlower hupper
    obtain ⟨_, -, hpair⟩ := Option.map_eq_some_iff.1 h
    rw [skipExponent_of_ne_mark hlower hupper, (Prod.mk.inj hpair).2]

/-- What is read as a fraction is skipped as one. -/
theorem skipFraction_of_fractionPart {negative : Bool} {d : Digits} {n : Number}
    (h : fractionPart negative d cs = some (n, rest)) :
    (skipFraction cs).bind skipExponent = some rest := by
  unfold fractionPart at h
  split at h
  · rename_i tail
    split at h
    · rename_i hstart
      have hskip : skipFraction ('.' :: tail) = some (takeDigits 0 tail).2 := if_pos hstart
      rw [hskip, Option.bind_some, ← fractionDigits_snd false d]
      exact skipExponent_of_exponentPart h
    · cases h
  · rename_i hdot
    rw [skipFraction_of_ne_dot hdot, Option.bind_some]
    exact skipExponent_of_exponentPart h

/-- What is read as a number is passed over as one. -/
theorem skipNumber_of_number {n : Number} (h : number cs = some (n, rest)) :
    skipNumber cs = some rest := by
  have hmagnitude : ∃ negative, magnitude negative (skipMinus cs) = some (n, rest) := by
    unfold number at h
    split at h
    · exact ⟨true, h⟩
    · rename_i hminus
      rw [skipMinus_of_ne_minus hminus]
      exact ⟨false, h⟩
  obtain ⟨negative, h⟩ := hmagnitude
  rw [magnitude] at h
  split at h
  · rename_i hstart
    obtain ⟨⟨d, after⟩, hwhole, hfraction⟩ := Option.bind_eq_some_iff.1 h
    rw [skipNumber_eq, skipWhole_of_wholePart hstart hwhole, Option.bind_some]
    exact skipFraction_of_fractionPart hfraction
  · cases h

/-- A whole part leaves less than there was. -/
theorem length_lt_of_skipWhole (h : skipWhole cs = some rest) : rest.length < cs.length := by
  unfold skipWhole at h
  split at h
  · have hrest := Option.some.inj (Option.ite_none_left_eq_some.1 h).2
    rw [hrest]
    exact Nat.lt_succ_self _
  · obtain ⟨hstart, hrest⟩ := Option.ite_none_right_eq_some.1 h
    rw [← Option.some.inj hrest]
    exact length_takeDigits_lt 0 hstart

/-- A fraction leaves no more than there was. -/
theorem length_le_of_skipFraction (h : skipFraction cs = some rest) :
    rest.length ≤ cs.length := by
  unfold skipFraction at h
  split at h
  · obtain ⟨-, hrest⟩ := Option.ite_none_right_eq_some.1 h
    rw [← Option.some.inj hrest]
    exact Nat.le_succ_of_le (length_takeDigits_le 0 _)
  · cases h
    exact Nat.le_refl _

/-- The digits of an exponent leave no more than there was. -/
theorem length_le_of_exponentDigits {e : Int} (h : exponentDigits cs = some (e, rest)) :
    rest.length ≤ cs.length := by
  have hdigits : ∀ signed : Int × List Char, signed.2.length ≤ cs.length →
      (if startsWithDigit signed.2 then
        some (signed.1 * ((takeDigits 0 signed.2).1 : Int), (takeDigits 0 signed.2).2)
      else none) = some (e, rest) → rest.length ≤ cs.length := by
    intro signed hle heq
    have hpair := Option.some.inj (Option.ite_none_right_eq_some.1 heq).2
    rw [← (Prod.mk.inj hpair).2]
    exact Nat.le_trans (length_takeDigits_le 0 signed.2) hle
  refine hdigits _ ?_ h
  split
  · exact Nat.le_succ _
  · exact Nat.le_succ _
  · exact Nat.le_refl _

/-- An exponent leaves no more than there was. -/
theorem length_le_of_skipExponent (h : skipExponent cs = some rest) :
    rest.length ≤ cs.length := by
  have hmap : ∀ tail, (exponentDigits tail).map (·.2) = some rest →
      rest.length ≤ tail.length := by
    intro tail heq
    obtain ⟨⟨e, _⟩, hdigits, rfl⟩ := Option.map_eq_some_iff.1 heq
    exact length_le_of_exponentDigits hdigits
  unfold skipExponent at h
  split at h
  · exact Nat.le_succ_of_le (hmap _ h)
  · exact Nat.le_succ_of_le (hmap _ h)
  · cases h
    exact Nat.le_refl _

/-- A number leaves less than there was. -/
theorem length_lt_of_skipNumber (h : skipNumber cs = some rest) : rest.length < cs.length := by
  rw [skipNumber_eq] at h
  obtain ⟨mid, hmid, hexponent⟩ := Option.bind_eq_some_iff.1 h
  obtain ⟨first, hwhole, hfraction⟩ := Option.bind_eq_some_iff.1 hmid
  have hsign : (skipMinus cs).length ≤ cs.length := by
    unfold skipMinus
    split
    · exact Nat.le_succ _
    · exact Nat.le_refl _
  have hfirst := length_lt_of_skipWhole hwhole
  have hsecond := length_le_of_skipFraction hfraction
  have hthird := length_le_of_skipExponent hexponent
  omega

/-! ### Scalars and keys -/

/-- A scalar that is no literal and no string is skipped as a number. -/
theorem skipScalar_of_ne_mark (hn : ∀ tail, cs ≠ 'n' :: tail) (ht : ∀ tail, cs ≠ 't' :: tail)
    (hf : ∀ tail, cs ≠ 'f' :: tail) (hquote : ∀ tail, cs ≠ '"' :: tail) :
    skipScalar cs = skipNumber cs := by
  unfold skipScalar
  split
  · exact absurd rfl (hn _)
  · exact absurd rfl (ht _)
  · exact absurd rfl (hf _)
  · exact absurd rfl (hquote _)
  · rfl

/-- What is read as a scalar is passed over as one. -/
theorem skipScalar_of_scalar (h : scalar cs = some (x, rest)) :
    skipScalar cs = some rest ∧ rest.length < cs.length := by
  unfold scalar at h
  split at h
  case h_4 =>
    obtain ⟨⟨s, _⟩, hstring, hpair⟩ := Option.map_eq_some_iff.1 h
    cases hpair
    obtain ⟨hskip, hlength⟩ := skipString_of_stringTail hstring
    exact ⟨hskip, Nat.lt_succ_of_lt hlength⟩
  case h_5 hn ht hf hquote =>
    obtain ⟨⟨n, _⟩, hnumber, hpair⟩ := Option.map_eq_some_iff.1 h
    cases hpair
    have hskip := skipNumber_of_number hnumber
    refine ⟨?_, length_lt_of_skipNumber hskip⟩
    rw [skipScalar_of_ne_mark hn ht hf hquote, hskip]
  all_goals
    obtain ⟨_, hword, hpair⟩ := Option.map_eq_some_iff.1 h
    cases hpair
    exact ⟨hword, Nat.lt_succ_of_le (length_le_of_word hword)⟩

/-- A field is a string, a colon and a value. -/
theorem parts_of_fieldOf {α : Type} {item : String → Reader α} {field : String × α}
    (h : fieldOf item cs = some (field, rest)) :
    ∃ key colon tail, expect '"' cs = some key ∧ stringTail key = some (field.1, colon) ∧
      expect ':' colon = some tail ∧ item field.1 tail = some (field.2, rest) := by
  unfold fieldOf at h
  obtain ⟨key, hquote, h⟩ := Option.bind_eq_some_iff.1 h
  obtain ⟨⟨name, colon⟩, hname, h⟩ := Option.bind_eq_some_iff.1 h
  obtain ⟨tail, hcolon, h⟩ := Option.bind_eq_some_iff.1 h
  obtain ⟨⟨value, _⟩, hvalue, hpair⟩ := Option.bind_eq_some_iff.1 h
  cases hpair
  exact ⟨key, colon, tail, hquote, hname, hcolon, hvalue⟩

/-- What is read as a field is a key, which is passed over as one, and its value. -/
theorem skipKey_of_fieldOf {α : Type} {item : String → Reader α} {field : String × α}
    (h : fieldOf item cs = some (field, rest)) :
    ∃ tail, skipKey cs = some tail ∧ tail.length < cs.length ∧
      item field.1 tail = some (field.2, rest) := by
  obtain ⟨key, colon, tail, hquote, hname, hcolon, hvalue⟩ := parts_of_fieldOf h
  obtain ⟨hskip, hlength⟩ := skipString_of_stringTail hname
  have hfirst := length_lt_of_expect hquote
  have hthird := length_lt_of_expect hcolon
  refine ⟨tail, ?_, by omega, hvalue⟩
  simp only [skipKey, hquote, hskip, hcolon, Option.bind_eq_bind, Option.bind_some]

/-! ### Rounds -/

/-- Passing over is at `cs`, in front of a value (`next`) or after one, and has the arrays and
objects `inner` to close until it gets to `rest`.  It does so in no more rounds than the
characters it takes, whatever else is open. -/
def Passes (next : Bool) (inner : List Bool) (cs rest : List Char) : Prop :=
  ∃ rounds, rounds + rest.length ≤ cs.length ∧ ∀ fuel outer,
    skipNested (rounds + fuel) next (inner ++ outer) cs = skipNested fuel false outer rest

/-- One round, and then the others. -/
theorem Passes.round {next next' : Bool} {inner inner' : List Bool} {mid : List Char}
    (hlength : mid.length < cs.length)
    (hround : ∀ fuel outer, skipNested (fuel + 1) next (inner ++ outer) cs =
      skipNested fuel next' (inner' ++ outer) mid)
    (h : Passes next' inner' mid rest) : Passes next inner cs rest := by
  obtain ⟨rounds, hrounds, hskip⟩ := h
  refine ⟨rounds + 1, by omega, fun fuel outer => ?_⟩
  rw [Nat.add_right_comm, hround, hskip]

/-- After a value there is nothing to do. -/
theorem Passes.done (rest : List Char) : Passes false [] rest rest :=
  ⟨0, by omega, fun fuel outer => by rw [Nat.zero_add, List.nil_append]⟩

/-- A value in an array or object, and then the others. -/
theorem Passes.append {isObject : Bool} {mid : List Char} (hvalue : Passes true [] cs mid)
    (hmore : Passes false [isObject] mid rest) : Passes true [isObject] cs rest := by
  obtain ⟨rounds, hrounds, hskip⟩ := hvalue
  obtain ⟨rounds', hrounds', hskip'⟩ := hmore
  refine ⟨rounds + rounds', by omega, fun fuel outer => ?_⟩
  have hfirst := hskip (rounds' + fuel) ([isObject] ++ outer)
  rw [List.nil_append] at hfirst
  rw [Nat.add_assoc, hfirst, hskip']

/-- A scalar that is read is passed. -/
theorem passes_of_scalar (h : scalar (skipSpace cs) = some (x, rest)) :
    Passes true [] cs rest := by
  obtain ⟨hskip, hlength⟩ := skipScalar_of_scalar h
  have hle := length_skipSpace_le cs
  refine Passes.round (by omega) (fun fuel outer => ?_) (Passes.done rest)
  rw [skipNested]
  split
  · rename_i tail heq
    rw [heq] at h
    cases h
  · rename_i tail heq
    rw [heq] at h
    cases h
  · rw [hskip, Option.bind_some, List.nil_append]

/-! ### Arrays and objects -/

/-- Blanks are skipped once and for all. -/
theorem skipSpace_skipSpace (cs : List Char) : skipSpace (skipSpace cs) = skipSpace cs :=
  List.dropWhile_idempotent isSpace cs

/-- Space is dropped before every document. -/
theorem value_skipSpace (depth : Nat) (cs : List Char) :
    value depth (skipSpace cs) = value depth cs := by
  cases depth with
  | zero => rw [value, value, skipSpace_skipSpace]
  | succ depth => rw [value, value, skipSpace_skipSpace]

/-- Blanks before a field make no difference. -/
theorem fieldOf_skipSpace {α : Type} (item : String → Reader α) (cs : List Char) :
    fieldOf item (skipSpace cs) = fieldOf item cs := by
  rw [fieldOf, fieldOf, expect, expect, skipSpace_skipSpace]

section Nested

variable {depth : Nat} (hvalue : ∀ {cs x rest}, value depth cs = some (x, rest) →
  Passes true [] cs rest)

include hvalue

/-- The items after the first are passed over when each of them is. -/
theorem passes_of_moreItems {fuel : Nat} {items : List Json}
    (h : moreItems (value depth) fuel cs = some (items, rest)) : Passes false [false] cs rest := by
  induction fuel generalizing cs items with
  | zero => cases h
  | succ fuel ih =>
    rw [moreItems] at h
    split at h
    · rename_i heq
      cases h
      refine Passes.round (length_lt_of_skipSpace heq) (fun fuel outer => ?_) (Passes.done _)
      simp only [List.singleton_append, skipNested, heq, Bool.false_eq_true, if_false,
        List.nil_append]
    · rename_i heq
      obtain ⟨⟨x, mid⟩, hx, h⟩ := Option.bind_eq_some_iff.1 h
      obtain ⟨⟨xs, _⟩, hxs, hpair⟩ := Option.map_eq_some_iff.1 h
      cases hpair
      refine Passes.round (length_lt_of_skipSpace heq) (fun fuel outer => ?_)
        ((hvalue hx).append (ih hxs))
      simp only [List.singleton_append, skipNested, heq, Bool.false_eq_true, if_false]
    · cases h

/-- An array is passed over when its items are. -/
theorem passes_of_itemsTail {tail : List Char} {items : List Json}
    (hopen : skipSpace cs = '[' :: tail)
    (h : itemsTail (value depth) tail = some (items, rest)) : Passes true [] cs rest := by
  have htail := length_lt_of_skipSpace hopen
  unfold itemsTail at h
  split at h
  · rename_i heq
    cases h
    have hrest := length_lt_of_skipSpace heq
    refine Passes.round (by omega) (fun fuel outer => ?_) (Passes.done _)
    simp only [skipNested, hopen, heq, List.nil_append]
  · rename_i hclose
    obtain ⟨⟨x, mid⟩, hx, h⟩ := Option.bind_eq_some_iff.1 h
    obtain ⟨⟨xs, _⟩, hxs, hpair⟩ := Option.map_eq_some_iff.1 h
    cases hpair
    rw [← value_skipSpace] at hx
    have hle := length_skipSpace_le tail
    refine Passes.round (by omega) (fun fuel outer => ?_)
      ((hvalue hx).append (passes_of_moreItems hvalue hxs))
    simp only [skipNested, hopen, List.nil_append, List.singleton_append]

/-- The fields after the first are passed over when their values are. -/
theorem passes_of_moreFields {fuel : Nat} {fields : List (String × Json)}
    (h : moreFields (fun _ => value depth) fuel cs = some (fields, rest)) :
    Passes false [true] cs rest := by
  induction fuel generalizing cs fields with
  | zero => cases h
  | succ fuel ih =>
    rw [moreFields] at h
    split at h
    · rename_i heq
      cases h
      refine Passes.round (length_lt_of_skipSpace heq) (fun fuel outer => ?_) (Passes.done _)
      simp only [List.singleton_append, skipNested, heq, if_true, List.nil_append]
    · rename_i heq
      obtain ⟨⟨field, mid⟩, hfield, h⟩ := Option.bind_eq_some_iff.1 h
      obtain ⟨⟨more, _⟩, hmore, hpair⟩ := Option.map_eq_some_iff.1 h
      cases hpair
      obtain ⟨after, hkey, hlength, hx⟩ := skipKey_of_fieldOf hfield
      have htail := length_lt_of_skipSpace heq
      refine Passes.round (Nat.lt_trans hlength htail) (fun fuel outer => ?_)
        ((hvalue hx).append (ih hmore))
      simp only [List.singleton_append, skipNested, heq, if_true, hkey, Option.bind_some]
    · cases h

/-- An object is passed over when the values of its fields are. -/
theorem passes_of_fieldsTail {tail : List Char} {fields : List (String × Json)}
    (hopen : skipSpace cs = '\x7b' :: tail)
    (h : fieldsTail (fun _ => value depth) tail = some (fields, rest)) :
    Passes true [] cs rest := by
  have htail := length_lt_of_skipSpace hopen
  unfold fieldsTail at h
  split at h
  · rename_i heq
    cases h
    have hrest := length_lt_of_skipSpace heq
    refine Passes.round (by omega) (fun fuel outer => ?_) (Passes.done _)
    simp only [skipNested, hopen, heq, List.nil_append]
  · rename_i hclose
    obtain ⟨⟨field, mid⟩, hfield, h⟩ := Option.bind_eq_some_iff.1 h
    obtain ⟨⟨more, _⟩, hmore, hpair⟩ := Option.map_eq_some_iff.1 h
    cases hpair
    rw [← fieldOf_skipSpace] at hfield
    obtain ⟨after, hkey, hlength, hx⟩ := skipKey_of_fieldOf hfield
    have hle := length_skipSpace_le tail
    refine Passes.round (by omega) (fun fuel outer => ?_)
      ((hvalue hx).append (passes_of_moreFields hvalue hmore))
    simp only [skipNested, hopen, List.nil_append, List.singleton_append, hkey, Option.bind_some]

end Nested

/-! ### Documents -/

/-- What is read as a document is passed over as one. -/
theorem passes_of_value {depth : Nat} (h : value depth cs = some (x, rest)) :
    Passes true [] cs rest := by
  induction depth generalizing cs x rest with
  | zero =>
    rw [value] at h
    split at h
    · cases h
    · cases h
    · exact passes_of_scalar h
  | succ depth ih =>
    rw [value] at h
    split at h
    · rename_i heq
      obtain ⟨⟨items, _⟩, hitems, hpair⟩ := Option.map_eq_some_iff.1 h
      cases hpair
      exact passes_of_itemsTail ih heq hitems
    · rename_i heq
      obtain ⟨⟨fields, _⟩, hfields, hpair⟩ := Option.map_eq_some_iff.1 h
      cases hpair
      exact passes_of_fieldsTail ih heq hfields
    · exact passes_of_scalar h

/-- A document that can be read can be passed over, and the same is left. -/
theorem skip_of_value {depth : Nat} (h : value depth cs = some (x, rest)) :
    skip cs = some rest := by
  obtain ⟨rounds, hrounds, hskip⟩ := passes_of_value h
  obtain ⟨spare, hspare⟩ : ∃ spare, 2 * cs.length + 2 = rounds + (spare + 1) :=
    ⟨2 * cs.length + 1 - rounds, by omega⟩
  have hnested := hskip (spare + 1) []
  rw [List.append_nil] at hnested
  rw [skip, hspare, hnested, skipNested]

end Parley.Json
