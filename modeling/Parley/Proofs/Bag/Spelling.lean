/-
# Typed getters accept exactly their spellings

Each typed getter reads back what its setter wrote, over the whole range of its type, and it
understands exactly the texts that spell a value of that type (`Bag.typed_properties`).  What
follows for the getters is the same for all of them; they differ in which texts their readers
understand.
-/

import Parley.Bag.Spelling
import Parley.Proofs.Decimal.Numeral
import Parley.Proofs.Text.Blank
import Parley.Proofs.Typed

namespace Parley

/-! ### Numbers -/

/-- A text spells the integer that is read off it. -/
theorem spellsInteger_iff {text : String} {i : Int} :
    SpellsInteger text i ↔ Decimal.readInt? (Text.trim text.toList) = some i := by
  rw [Decimal.readInt?_eq_some_iff]
  constructor
  · rintro ⟨core, hpadded, hinteger⟩
    rwa [Text.trim_of_padded hinteger.ne_nil hinteger.isBlank_eq_false hpadded]
  · exact fun h => ⟨_, Text.padded_trim _, h⟩

/-- A text spells the natural number that is read off it. -/
theorem spellsNatural_iff {text : String} {n : Nat} :
    SpellsNatural text n ↔ Decimal.readNat? (Text.trim text.toList) = some n := by
  rw [Decimal.readNat?_eq_some_iff]
  constructor
  · rintro ⟨core, hpadded, hnatural⟩
    rwa [Text.trim_of_padded hnatural.ne_nil hnatural.isBlank_eq_false hpadded]
  · exact fun h => ⟨_, Text.padded_trim _, h⟩

namespace Bag

variable {text : String}

/-- An integer is read when it is spelled and lies in the range. -/
theorem readInRange?_eq_some_iff {low high i : Int} :
    readInRange? low high text = some i ↔ SpellsInteger text i ∧ low ≤ i ∧ i ≤ high := by
  simp only [readInRange?, Option.filter_eq_some_iff, Bool.and_eq_true, decide_eq_true_eq,
    spellsInteger_iff]

/-- The reader of 32-bit integers understands exactly the texts for one. -/
theorem readInt32?_eq_some_iff {value : Int32} :
    readInt32? text = some value ↔ SpellsInteger text value.toInt := by
  simp only [readInt32?, Option.map_eq_some_iff, readInRange?_eq_some_iff]
  constructor
  · rintro ⟨i, ⟨hspells, hlow, hhigh⟩, rfl⟩
    rwa [Int32.toInt_ofInt_of_le hlow (Int.lt_add_one_of_le hhigh)]
  · intro h
    exact ⟨value.toInt, ⟨h, Int32.minValue_le_toInt value, Int32.toInt_le value⟩,
      Int32.ofInt_toInt value⟩

/-- The reader of 64-bit integers understands exactly the texts for one. -/
theorem readInt64?_eq_some_iff {value : Int64} :
    readInt64? text = some value ↔ SpellsInteger text value.toInt := by
  simp only [readInt64?, Option.map_eq_some_iff, readInRange?_eq_some_iff]
  constructor
  · rintro ⟨i, ⟨hspells, hlow, hhigh⟩, rfl⟩
    rwa [Int64.toInt_ofInt_of_le hlow (Int.lt_add_one_of_le hhigh)]
  · intro h
    exact ⟨value.toInt, ⟨h, Int64.minValue_le_toInt value, Int64.toInt_le value⟩,
      Int64.ofInt_toInt value⟩

/-- The reader of durations understands exactly the texts for one that can be written. -/
theorem readDuration?_eq_some_iff {d : Duration} :
    readDuration? text = some d ↔ SpellsNatural text d ∧ d ≤ Duration.maxWritten := by
  simp only [readDuration?, Option.filter_eq_some_iff, decide_eq_true_eq, spellsNatural_iff]

/-! ### Truth values -/

/-- ASCII letters are made small as all letters are. -/
theorem lowerAscii_eq_toLower (c : Char) : lowerAscii c = c.toLower := by
  by_cases hupper : 'A' ≤ c ∧ c ≤ 'Z'
  · have hletter : c.toLower = ⟨c.val + ('a'.val - 'A'.val), _⟩ := dif_pos hupper
    have hlower : c.toLower.toNat = c.toNat + 32 := by
      have hle : c.val.toNat ≤ 90 := hupper.2
      rw [hletter]
      change (c.val + 32).toNat = c.val.toNat + 32
      rw [UInt32.toNat_add]
      exact Nat.mod_eq_of_lt (by change c.val.toNat + 32 < 4294967296; omega)
    rw [lowerAscii, if_pos hupper, ← hlower, Char.ofNat_toNat]
  · have hletter : c.toLower = c := dif_neg hupper
    rw [lowerAscii, if_neg hupper, hletter]

/-- The reader of truth values understands exactly the two words. -/
theorem readBool?_eq_some_iff {value : Bool} :
    readBool? text = some value ↔ SpellsBool text value := by
  have hlower : text.toList.map lowerAscii = text.toList.map Char.toLower :=
    List.map_congr_left fun c _ => lowerAscii_eq_toLower c
  rw [SpellsBool, readBool?, hlower]
  by_cases htrue : text.toList.map Char.toLower = "true".toList
  · rw [if_pos htrue, htrue]
    cases value <;> decide
  · rw [if_neg htrue]
    by_cases hfalse : text.toList.map Char.toLower = "false".toList
    · rw [if_pos hfalse, hfalse]
      cases value <;> decide
    · rw [if_neg hfalse]
      cases value with
      | true => exact iff_of_false (by simp) htrue
      | false => exact iff_of_false (by simp) hfalse

/-! ### Getters -/

/-- A getter accepts what its reader understands. -/
theorem accepts_getWith {α : Type} {expected : String} {read : String → Option α}
    {spells : String → α → Prop} (h : ∀ text value, read text = some value ↔ spells text value) :
    Accepts (fun b key => b.getWith key expected read) none some expected spells where
  absent b key hkey := getWith_of_none (by rw [text?, hkey]; rfl)
  null b key hkey := getWith_of_none (by rw [text?, hkey]; rfl)
  understood b key text value hkey hspells :=
    getWith_of_text? (by rw [text?, hkey]; rfl) ((h text value).2 hspells)
  refused b key text hkey hspells := by
    have htext : b.text? key = some text := by rw [text?, hkey]; rfl
    have hread : read text = none :=
      Option.eq_none_iff_forall_ne_some.2 fun value hvalue => hspells value ((h text value).1 hvalue)
    rw [getWith, htext]
    simp only [hread]

/-- With a value in place of none a getter accepts the same. -/
theorem Accepts.getD {α : Type} {get : Bag → String → Except Fault (Option α)} {expected : String}
    {spells : String → α → Prop} (h : Accepts get none some expected spells) (default : α) :
    Accepts (fun b key => (get b key).map fun value => value.getD default) default id expected
      spells where
  absent b key hkey := by
    rw [h.absent b key hkey]
    rfl
  null b key hkey := by
    rw [h.null b key hkey]
    rfl
  understood b key text value hkey hspells := by
    rw [h.understood b key text value hkey hspells]
    rfl
  refused b key text hkey hspells := by
    rw [h.refused b key text hkey hspells]
    rfl

/-- Setters that insert a text read back when their getter accepts this text. -/
theorem Accepts.readsBack {α β γ : Type} {get : Bag → String → Except Fault β} {missing : β}
    {found : α → β} {expected : String} {spells : String → α → Prop}
    (h : Accepts get missing found expected spells) (write : γ → String) (read : γ → α)
    (hwrite : ∀ value, spells (write value) (read value)) :
    ReadsBack (fun b key value => b.insert key (some (write value))) get
      fun value => found (read value) where
  same b key value :=
    h.understood _ key _ _ (by rw [get?_insert, if_pos rfl]) (hwrite value)
  others b key value other hother := by rw [get?_insert, if_neg hother]

/-! ### Properties of each type -/

/-- The texts of integers are accepted that fit into 32 bits. -/
theorem accepts_getInt32 :
    Accepts getInt32 none some "i32" fun text value => SpellsInteger text value.toInt :=
  accepts_getWith fun _ _ => readInt32?_eq_some_iff

/-- The texts of integers are accepted that fit into 64 bits. -/
theorem accepts_getInt64 :
    Accepts getInt64 none some "i64" fun text value => SpellsInteger text value.toInt :=
  accepts_getWith fun _ _ => readInt64?_eq_some_iff

/-- The texts of truth values are accepted. -/
theorem accepts_getBool : Accepts getBool false id "bool" SpellsBool :=
  (accepts_getWith fun _ _ => readBool?_eq_some_iff).getD false

/-- The texts of durations are accepted that can be written. -/
theorem accepts_getDuration :
    Accepts getDuration none some "duration" fun text d =>
      SpellsNatural text d ∧ d ≤ Duration.maxWritten :=
  accepts_getWith fun _ _ => readDuration?_eq_some_iff

/-- The getters read back what the setters wrote: every integer of 32 or 64 bits, every truth
value, and of every duration as much as can be written.  Of the texts that a key can have they
understand exactly those that spell a value of their type, a missing one reads as none or as
false, and all others are refused. -/
theorem typed_properties :
    ReadsBack setInt32 getInt32 some ∧
      ReadsBack setInt64 getInt64 some ∧
      ReadsBack setBool getBool id ∧
      ReadsBack setDuration getDuration (fun d => some (min d Duration.maxWritten)) ∧
      Accepts getInt32 none some "i32" (fun text value => SpellsInteger text value.toInt) ∧
      Accepts getInt64 none some "i64" (fun text value => SpellsInteger text value.toInt) ∧
      Accepts getBool false id "bool" SpellsBool ∧
      Accepts getDuration none some "duration" (fun text d =>
        SpellsNatural text d ∧ d ≤ Duration.maxWritten) := by
  refine ⟨?_, ?_, ?_, ?_, accepts_getInt32, accepts_getInt64, accepts_getBool,
    accepts_getDuration⟩
  · exact accepts_getInt32.readsBack _ id fun value =>
      readInt32?_eq_some_iff.1 (readInt32?_intText value)
  · exact accepts_getInt64.readsBack _ id fun value =>
      readInt64?_eq_some_iff.1 (readInt64?_intText value)
  · exact accepts_getBool.readsBack _ id fun value =>
      readBool?_eq_some_iff.1 (readBool?_boolText value)
  · exact accepts_getDuration.readsBack _ Duration.written fun d =>
      readDuration?_eq_some_iff.1 (readDuration?_natText (Nat.min_le_right d _))

end Bag

end Parley
