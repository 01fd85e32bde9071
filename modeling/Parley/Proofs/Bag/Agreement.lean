/-
# Typed getters on equal bags

Texts with the same meaning are the same, or they are texts of equal documents; and documents
that are equal to an integer or to a truth value are this integer or this truth value.  So what
one text spells the other one spells too, as far as a spelling is the text of such a document.
For natural numbers it always is.  For integers it is unless it is minus zero, and of the texts of
a truth value only the bare word is a spelling.  Where a getter agrees on equal bags follows for
any getter from the spellings it accepts (`Bag.Accepts.agreeBut`).
-/

import Parley.Engine.Alike
import Parley.Proofs.Bag.Equivalence
import Parley.Proofs.Bag.Spelling
import Parley.Proofs.Json.Spelling

namespace Parley

variable {t u : String} {i j : Int}

/-! ### Texts with the same meaning -/

/-- Texts with the same meaning are the same or stand for equal documents. -/
theorem eq_or_parse_of_meaning (h : meaning t = meaning u) :
    t = u ∨ ∃ x y, Json.parse t = some x ∧ Json.parse u = some y ∧ x.normal = y.normal := by
  cases ht : Json.parse t with
  | none =>
    rw [meaning_of_parse_eq_none ht] at h
    cases hu : Json.parse u with
    | none =>
      rw [meaning_of_parse_eq_none hu] at h
      exact .inl (Meaning.text.inj h)
    | some y =>
      rw [meaning_of_parse hu] at h
      cases h
  | some x =>
    rw [meaning_of_parse ht] at h
    cases hu : Json.parse u with
    | none =>
      rw [meaning_of_parse_eq_none hu] at h
      cases h
    | some y =>
      rw [meaning_of_parse hu] at h
      exact .inr ⟨x, y, rfl, rfl, Meaning.document.inj h⟩

/-- An integer in normal form was written as that integer. -/
theorem Json.eq_int_of_normal {x : Json} (h : x.normal = .num (.int i)) : x = .num (.int i) := by
  cases x with
  | num n =>
    cases n with
    | int => exact h
    | real => cases h
  | _ => cases h

/-- A truth value in normal form was written as that value. -/
theorem Json.eq_bool_of_normal {x : Json} {value : Bool} (h : x.normal = .bool value) :
    x = .bool value := by
  cases x with
  | bool => exact h
  | _ => cases h

/-- What stands between blanks of a document stands between blanks of a text. -/
theorem padded_isBlank {core cs : List Char} (h : Text.Padded Json.isSpace core cs) :
    Text.Padded Text.isBlank core cs := by
  obtain ⟨before, after, hcs, hbefore, hafter⟩ := h
  exact ⟨before, after, hcs, fun c hc => Json.isBlank_of_isSpace (hbefore c hc),
    fun c hc => Json.isBlank_of_isSpace (hafter c hc)⟩

/-! ### Integers -/

/-- The integers that a document keeps as such. -/
def Kept (i : Int) : Prop :=
  Json.minInt ≤ i ∧ i ≤ Json.maxInt

/-- A negative zero spells zero. -/
theorem isInteger_minusZero : Decimal.IsInteger Decimal.minusZero 0 :=
  Decimal.readInt?_eq_some_iff.1 rfl

/-- A text spells one integer at most. -/
theorem SpellsInteger.unique (ht : SpellsInteger t i) (ht' : SpellsInteger t j) : i = j :=
  Option.some.inj ((spellsInteger_iff.1 ht).symm.trans (spellsInteger_iff.1 ht'))

/-- A text that is a negative zero spells zero. -/
theorem IsMinusZero.spells (h : IsMinusZero t) : SpellsInteger t 0 :=
  ⟨Decimal.minusZero, h, isInteger_minusZero⟩

/-- A text is a negative zero when that is what is left after trimming. -/
theorem isMinusZero_iff : IsMinusZero t ↔ Text.trim t.toList = Decimal.minusZero :=
  Text.padded_iff isInteger_minusZero.ne_nil isInteger_minusZero.isBlank_eq_false

/-- The text of a document that is an integer spells this integer, and is not minus zero. -/
theorem spells_of_parse_int (h : Json.parse t = some (.num (.int i))) :
    SpellsInteger t i ∧ ¬ IsMinusZero t := by
  obtain ⟨core, hpadded, hwhole⟩ := Json.spelling_of_parse_int h
  have hblank := padded_isBlank hpadded
  have hinteger := hwhole.isInteger
  refine ⟨⟨core, hblank, hinteger⟩, fun hzero => hwhole.ne_minusZero ?_⟩
  rw [← Text.trim_of_padded hinteger.ne_nil hinteger.isBlank_eq_false hblank]
  exact isMinusZero_iff.1 hzero

/-- An integer that one text spells the other one spells too, unless it is minus zero. -/
theorem spellsInteger_of_meaning (h : meaning t = meaning u) (hi : Kept i)
    (hspells : SpellsInteger t i) :
    IsMinusZero t ∨ SpellsInteger u i ∧ ¬ IsMinusZero u := by
  by_cases hzero : IsMinusZero t
  · exact .inl hzero
  refine .inr ?_
  rcases eq_or_parse_of_meaning h with rfl | ⟨x, y, hx, hy, hnormal⟩
  · exact ⟨hspells, hzero⟩
  · obtain ⟨core, hpadded, hinteger⟩ := hspells
    rcases Json.int_of_parse hpadded hinteger hi.1 hi.2 hx with rfl | rfl
    · rw [Json.eq_int_of_normal hnormal.symm] at hy
      exact spells_of_parse_int hy
    · exact absurd hpadded hzero

/-- The texts spell the same integers, of those that a document keeps, when both or neither is
minus zero. -/
theorem spellsInteger_iff_of_meaning {α : Type} {toInt : α → Int} (hkept : ∀ v, Kept (toInt v))
    (zero : α) (hzero : toInt zero = 0) (h : meaning t = meaning u) :
    (∀ v, SpellsInteger t (toInt v) ↔ SpellsInteger u (toInt v)) ↔
      (IsMinusZero t ↔ IsMinusZero u) := by
  -- if only the first were minus zero, what the other spells would be no minus zero there
  have honly : ∀ {t u : String}, meaning t = meaning u →
      (∀ v, SpellsInteger t (toInt v) ↔ SpellsInteger u (toInt v)) →
        IsMinusZero t → IsMinusZero u := by
    intro t u h hsame ht
    have hu := (hsame zero).1 (hzero.symm ▸ ht.spells)
    rcases spellsInteger_of_meaning h.symm (hkept zero) hu with hminus | ⟨-, hnot⟩
    · exact hminus
    · exact absurd ht hnot
  have hspells : ∀ {t u : String}, meaning t = meaning u → (IsMinusZero t → IsMinusZero u) →
      ∀ v, SpellsInteger t (toInt v) → SpellsInteger u (toInt v) := by
    intro t u h hminus v ht
    rcases spellsInteger_of_meaning h (hkept v) ht with hminusZero | ⟨hu, -⟩
    · rw [ht.unique hminusZero.spells]
      exact (hminus hminusZero).spells
    · exact hu
  constructor
  · exact fun hsame => ⟨honly h hsame, honly h.symm fun v => (hsame v).symm⟩
  · exact fun hminus v => ⟨hspells h hminus.1 v, hspells h.symm hminus.2 v⟩

/-- The texts do not spell different integers. -/
theorem spellsInteger_eq_of_meaning (h : meaning t = meaning u) (hi : Kept i) (hj : Kept j)
    (ht : SpellsInteger t i) (hu : SpellsInteger u j) : i = j := by
  rcases spellsInteger_of_meaning h hi ht with hminus | ⟨hsame, -⟩
  · rcases spellsInteger_of_meaning h.symm hj hu with hminus' | ⟨hsame, -⟩
    · exact (ht.unique hminus.spells).trans (hu.unique hminus'.spells).symm
    · exact ht.unique hsame
  · exact hsame.unique hu

/-! ### Natural numbers -/

/-- A natural number that one text spells the other one spells too. -/
theorem spellsNatural_of_meaning {n : Nat} (h : meaning t = meaning u)
    (hn : n ≤ Duration.maxWritten) (hspells : SpellsNatural t n) : SpellsNatural u n := by
  rcases eq_or_parse_of_meaning h with rfl | ⟨x, y, hx, hy, hnormal⟩
  · exact hspells
  · obtain ⟨core, hpadded, hnatural⟩ := hspells
    have hmin : Json.minInt ≤ (n : Int) := Int.le_trans (b := 0) (by decide) (Int.natCast_nonneg _)
    have hmax : (n : Int) ≤ Json.maxInt := Int.ofNat_le.2 hn
    rcases Json.int_of_parse hpadded (.natural hnatural) hmin hmax hx with rfl | rfl
    · rw [Json.eq_int_of_normal hnormal.symm] at hy
      obtain ⟨core', hpadded', hwhole⟩ := Json.spelling_of_parse_int hy
      exact ⟨core', padded_isBlank hpadded', hwhole.isNatural⟩
    · exact absurd rfl (hnatural.ne_minus _)

/-- A text spells one natural number at most. -/
theorem SpellsNatural.unique {n m : Nat} (ht : SpellsNatural t n) (ht' : SpellsNatural t m) :
    n = m :=
  Option.some.inj ((spellsNatural_iff.1 ht).symm.trans (spellsNatural_iff.1 ht'))

/-- The texts spell the same natural numbers, of those that a duration can have. -/
theorem spellsDuration_iff_of_meaning (h : meaning t = meaning u) (n : Nat) :
    (SpellsNatural t n ∧ n ≤ Duration.maxWritten) ↔
      (SpellsNatural u n ∧ n ≤ Duration.maxWritten) :=
  and_congr_left fun hn =>
    ⟨spellsNatural_of_meaning h hn, spellsNatural_of_meaning h.symm hn⟩

/-! ### Truth values -/

variable {value other : Bool}

/-- A text spells one truth value at most. -/
theorem SpellsBool.unique (ht : SpellsBool t value) (ht' : SpellsBool t other) : value = other :=
  Option.some.inj
    ((Bag.readBool?_eq_some_iff.2 ht).symm.trans (Bag.readBool?_eq_some_iff.2 ht'))

/-- The text of a truth value spells it. -/
theorem spellsBool_boolText (value : Bool) : SpellsBool (Bag.boolText value) value :=
  Bag.readBool?_eq_some_iff.1 (Bag.readBool?_boolText value)

/-- There is no space in what spells a truth value. -/
theorem SpellsBool.isSpace_eq_false (h : SpellsBool t value) {c : Char} (hc : c ∈ t.toList) :
    Json.isSpace c = false := by
  have hmem : c.toLower ∈ (Bag.boolText value).toList := by
    rw [← h]
    exact List.mem_map_of_mem hc
  refine Bool.eq_false_iff.2 fun hspace => ?_
  simp only [Json.isSpace, Bool.or_eq_true, beq_iff_eq] at hspace
  rcases hspace with ((rfl | rfl) | rfl) | rfl <;> cases value <;> revert hmem <;> decide

/-- A truth value with blanks around it spells none. -/
theorem IsSpacedBool.not_spells (h : IsSpacedBool t) : ¬ SpellsBool t value := by
  obtain ⟨word, ⟨before, after, ht, hbefore, hafter⟩, hne⟩ := h
  intro hspells
  have hempty : ∀ cs : List Char, (∀ c ∈ cs, Json.isSpace c = true) →
      (∀ c ∈ cs, c ∈ t.toList) → cs = [] := by
    intro cs hspace hsub
    refine List.eq_nil_iff_forall_not_mem.2 fun c hc => ?_
    exact Bool.false_ne_true ((hspells.isSpace_eq_false (hsub c hc)).symm.trans (hspace c hc))
  have hfirst := hempty before hbefore fun c hc => by simp [ht, hc]
  have hlast := hempty after hafter fun c hc => by simp [ht, hc]
  refine hne (String.toList_injective ?_)
  rw [ht, hfirst, hlast, List.append_nil, List.nil_append]

/-- A document equal to a truth value has the bare word for its text or one with space. -/
theorem eq_boolText_or_isSpacedBool {x y : Json} (hx : Json.parse t = some x)
    (hy : Json.parse u = some y) (hnormal : x.normal = y.normal)
    (hpadded : Text.Padded Json.isSpace (Bag.boolText value).toList t.toList) :
    u = Bag.boolText value ∨ IsSpacedBool u := by
  obtain rfl := Json.eq_bool_of_parse hpadded hx
  rw [Json.eq_bool_of_normal hnormal.symm] at hy
  by_cases hword : u = Bag.boolText value
  · exact .inl hword
  · exact .inr ⟨value, Json.padded_of_parse_bool hy, hword⟩

/-- A truth value that one text spells the other one spells too, unless it has space. -/
theorem spellsBool_of_meaning (h : meaning t = meaning u) (hspells : SpellsBool t value) :
    SpellsBool u value ∨ IsSpacedBool u := by
  rcases eq_or_parse_of_meaning h with rfl | ⟨x, y, hx, hy, hnormal⟩
  · exact .inl hspells
  · have hword := Json.eq_boolText_of_parse hspells hx
    have hpadded : Text.Padded Json.isSpace (Bag.boolText value).toList t.toList :=
      ⟨[], [], by simp [hword], by simp, by simp⟩
    rcases eq_boolText_or_isSpacedBool hx hy hnormal hpadded with rfl | hspaced
    · exact .inl (spellsBool_boolText value)
    · exact .inr hspaced

/-- When one text has space the other one spells a truth value, unless it has space too. -/
theorem exists_spellsBool_of_meaning (h : meaning t = meaning u) (hspaced : IsSpacedBool t) :
    IsSpacedBool u ∨ ∃ value, SpellsBool u value := by
  rcases eq_or_parse_of_meaning h with rfl | ⟨x, y, hx, hy, hnormal⟩
  · exact .inl hspaced
  · obtain ⟨value, hpadded, -⟩ := hspaced
    rcases eq_boolText_or_isSpacedBool hx hy hnormal hpadded with rfl | hspaced'
    · exact .inr ⟨value, spellsBool_boolText value⟩
    · exact .inl hspaced'

/-- The texts spell the same truth values when both or neither has space. -/
theorem spellsBool_iff_of_meaning (h : meaning t = meaning u) :
    (∀ value, SpellsBool t value ↔ SpellsBool u value) ↔ (IsSpacedBool t ↔ IsSpacedBool u) := by
  have honly : ∀ {t u : String}, meaning t = meaning u →
      (∀ value, SpellsBool t value ↔ SpellsBool u value) → IsSpacedBool t → IsSpacedBool u := by
    intro t u h hsame ht
    rcases exists_spellsBool_of_meaning h ht with hu | ⟨value, hu⟩
    · exact hu
    · exact absurd ((hsame value).2 hu) ht.not_spells
  have hspells : ∀ {t u : String}, meaning t = meaning u → (IsSpacedBool u → IsSpacedBool t) →
      ∀ value, SpellsBool t value → SpellsBool u value := by
    intro t u h hspaced value ht
    rcases spellsBool_of_meaning h ht with hu | hu
    · exact hu
    · exact absurd ht (hspaced hu).not_spells
  constructor
  · exact fun hsame => ⟨honly h hsame, honly h.symm fun value => (hsame value).symm⟩
  · exact fun hspaced value => ⟨hspells h hspaced.2 value, hspells h.symm hspaced.1 value⟩

/-- The texts do not spell different truth values. -/
theorem spellsBool_eq_of_meaning (h : meaning t = meaning u) (ht : SpellsBool t value)
    (hu : SpellsBool u other) : value = other := by
  rcases spellsBool_of_meaning h ht with hsame | hspaced
  · exact hsame.unique hu
  · exact absurd hu hspaced.not_spells

/-! ### Getters -/

namespace Bag

variable {α β : Type} {get : Bag → String → Except Fault β} {missing : β} {found : α → β}
  {expected key : String} {spells : String → α → Prop} {a b : Bag}

/-- What a getter gave for a text it found in a spelling of it. -/
theorem Accepts.exists_of_ok (h : Accepts get missing found expected spells) {value : β}
    (hkey : a.get? key = some (some t)) (hget : get a key = .ok value) :
    ∃ v, spells t v ∧ value = found v := by
  by_cases hspells : ∃ v, spells t v
  · obtain ⟨v, hv⟩ := hspells
    refine ⟨v, hv, ?_⟩
    rw [h.understood a key t v hkey hv] at hget
    exact (Except.ok.inj hget).symm
  · rw [h.refused a key t hkey fun v hv => hspells ⟨v, hv⟩] at hget
    cases hget

/-- A getter gives the same for two texts when these spell the same. -/
theorem Accepts.eq_iff (h : Accepts get missing found expected spells)
    (hinjective : Function.Injective found) (ht : a.get? key = some (some t))
    (hu : b.get? key = some (some u)) :
    get a key = get b key ↔ ∀ v, spells t v ↔ spells u v := by
  constructor
  · intro heq v
    constructor
    · intro hv
      rw [h.understood a key t v ht hv] at heq
      obtain ⟨w, hw, hfound⟩ := h.exists_of_ok hu heq.symm
      rwa [hinjective hfound]
    · intro hv
      rw [h.understood b key u v hu hv] at heq
      obtain ⟨w, hw, hfound⟩ := h.exists_of_ok ht heq
      rwa [hinjective hfound]
  · intro hsame
    by_cases hspells : ∃ v, spells t v
    · obtain ⟨v, hv⟩ := hspells
      rw [h.understood a key t v ht hv, h.understood b key u v hu ((hsame v).1 hv)]
    · have hnone : ∀ v, ¬ spells t v := fun v hv => hspells ⟨v, hv⟩
      rw [h.refused a key t ht hnone, h.refused b key u hu fun v hv => hnone v ((hsame v).2 hv)]

/-- A property of the text under a key is asked of that text. -/
theorem holds_iff {p : String → Prop} (h : a.get? key = some (some t)) : a.Holds p key ↔ p t := by
  constructor
  · rintro ⟨text, htext, hp⟩
    obtain rfl : t = text := Option.some.inj (Option.some.inj (h.symm.trans htext))
    exact hp
  · exact fun hp => ⟨t, h, hp⟩

/-- Where there is no text it does not hold. -/
theorem not_holds {p : String → Prop} (h : ∀ text, a.get? key ≠ some (some text)) :
    ¬ a.Holds p key :=
  fun ⟨text, htext, _⟩ => h text htext

/-- Under a key equal bags hold texts with the same meaning, or neither holds a text and a getter
gives what it gives for a missing one. -/
theorem Accepts.texts_of_same (h : Accepts get missing found expected spells)
    (hsame : a.same b = true) (key : String) :
    (∃ t u, a.get? key = some (some t) ∧ b.get? key = some (some u) ∧ meaning t = meaning u) ∨
      ((∀ text, a.get? key ≠ some (some text)) ∧ (∀ text, b.get? key ≠ some (some text)) ∧
        get a key = .ok missing ∧ get b key = .ok missing) := by
  have hkey := (same_iff a b).1 hsame key
  cases ha : a.get? key with
  | none =>
    have hb : b.get? key = none := by
      rwa [meaning?_eq_none.2 ha, eq_comm, meaning?_eq_none] at hkey
    exact .inr ⟨nofun, by simp [hb], h.absent a key ha, h.absent b key hb⟩
  | some value =>
    cases value with
    | none =>
      have hb : b.get? key = some none := by
        rwa [meaning?_eq_some_none.2 ha, eq_comm, meaning?_eq_some_none] at hkey
      exact .inr ⟨nofun, by simp [hb], h.null a key ha, h.null b key hb⟩
    | some t =>
      obtain ⟨other, hb, hother⟩ := exists_of_same hsame ha
      rw [sameValue_iff] at hother
      cases other with
      | none => cases hother
      | some u => exact .inl ⟨t, u, rfl, hb, Option.some.inj hother⟩

/-- A getter does not give different values on equal bags, if no texts with the same meaning
are spellings of different values. -/
theorem Accepts.values_of_same (h : Accepts get missing found expected spells)
    (hvalue : ∀ {t u v w}, meaning t = meaning u → spells t v → spells u w → v = w)
    (hsame : a.same b = true) {value value' : β} (hget : get a key = .ok value)
    (hget' : get b key = .ok value') : value = value' := by
  rcases h.texts_of_same hsame key with ⟨t, u, ht, hu, hmeaning⟩ | ⟨-, -, hmissing, hmissing'⟩
  · obtain ⟨v, hv, rfl⟩ := h.exists_of_ok ht hget
    obtain ⟨w, hw, rfl⟩ := h.exists_of_ok hu hget'
    rw [hvalue hmeaning hv hw]
  · exact Except.ok.inj (hget.symm.trans (hmissing.trans (hmissing'.symm.trans hget')))

/-- Where a getter agrees on equal bags: when texts with the same meaning are spellings of the
same values unless just one of them is odd, and never of different values. -/
theorem Accepts.agreeBut (h : Accepts get missing found expected spells)
    (hinjective : Function.Injective found) {odd : String → Prop}
    (hodd : ∀ {t u}, meaning t = meaning u →
      ((∀ v, spells t v ↔ spells u v) ↔ (odd t ↔ odd u)))
    (hvalue : ∀ {t u v w}, meaning t = meaning u → spells t v → spells u w → v = w)
    (hsame : a.same b = true) : AgreeBut odd get a b where
  agree key := by
    rcases h.texts_of_same hsame key with
      ⟨t, u, ht, hu, hmeaning⟩ | ⟨hnot, hnot', hmissing, hmissing'⟩
    · rw [h.eq_iff hinjective ht hu, holds_iff ht, holds_iff hu, hodd hmeaning]
    · exact iff_of_true (hmissing.trans hmissing'.symm)
        (iff_of_false (not_holds hnot) (not_holds hnot'))
  values key value value' hget hget' := h.values_of_same hvalue hsame hget hget'

/-- The integers of 32 bits are kept as integers. -/
theorem kept_int32 (value : Int32) : Kept value.toInt :=
  ⟨Int.le_trans (by decide) (Int32.minValue_le_toInt value),
    Int.le_trans (Int32.toInt_le value) (by decide)⟩

/-- The integers of 64 bits are kept as integers. -/
theorem kept_int64 (value : Int64) : Kept value.toInt :=
  ⟨Int64.minValue_le_toInt value, Int.le_trans (Int64.toInt_le value) (by decide)⟩

/-- Equal bags give the same integers, truth values and durations, except where only one text is
minus zero, or a truth value with space around it. -/
theorem typedAlike_of_same (h : a.same b = true) : TypedAlike a b where
  int32 := accepts_getInt32.agreeBut (fun _ _ => Option.some.inj)
    (spellsInteger_iff_of_meaning kept_int32 0 rfl)
    (fun hmeaning ht hu => Int32.toInt_inj.1
      (spellsInteger_eq_of_meaning hmeaning (kept_int32 _) (kept_int32 _) ht hu)) h
  int64 := accepts_getInt64.agreeBut (fun _ _ => Option.some.inj)
    (spellsInteger_iff_of_meaning kept_int64 0 rfl)
    (fun hmeaning ht hu => Int64.toInt_inj.1
      (spellsInteger_eq_of_meaning hmeaning (kept_int64 _) (kept_int64 _) ht hu)) h
  bool := accepts_getBool.agreeBut Function.injective_id spellsBool_iff_of_meaning
    spellsBool_eq_of_meaning h
  duration key := by
    have hnever : AgreeBut (fun _ => False) getDuration a b :=
      accepts_getDuration.agreeBut (fun _ _ => Option.some.inj)
        (fun hmeaning => iff_of_true (spellsDuration_iff_of_meaning hmeaning) Iff.rfl)
        (fun hmeaning ht hu =>
          SpellsNatural.unique ((spellsDuration_iff_of_meaning hmeaning _).1 ht).1 hu.1) h
    have hholds : ∀ b : Bag, ¬ b.Holds (fun _ => False) key := fun b ⟨_, _, hno⟩ => hno
    exact (hnever.agree key).2 (iff_of_false (hholds a) (hholds b))

end Bag

end Parley
