/-
# Documents read back

The compact text of a document reads as the document, when it has no fractions, its
integers fit a 64-bit word, the keys of its objects ascend and it does not nest too deep.
Reading goes down one level of nesting at a time, so the proof is by induction on how deep
a document may nest; at each level the items of an array and the fields of an object are
read one after the other.

An object may list its fields in any order: the insertions of different keys commute, so the
fields come out in the order of their keys.
-/

import Mathlib.Data.List.Nodup
import Mathlib.Data.List.Perm.Basic
import Parley.Proofs.Json.Scalar

namespace Parley.Json

/-! ### Plain documents -/

/-- Whether the keys of some fields ascend. -/
def ascending (fields : List (String × Json)) : Bool :=
  decide ((fields.map Prod.fst).Pairwise (· < ·))

mutual

/-- Whether a document has a text that reads back: no fractions, integers of 64 bits,
ascending keys, and arrays and objects at most `depth` deep. -/
def plain : Nat → Json → Bool
  | _, .null => true
  | _, .bool _ => true
  | _, .num (.int i) => decide (minInt ≤ i) && decide (i ≤ maxInt)
  | _, .num (.real _) => false
  | _, .str _ => true
  | 0, .arr _ => false
  | depth + 1, .arr items => plainItems depth items
  | 0, .obj _ => false
  | depth + 1, .obj fields => ascending fields && plainFields depth fields

/-- `plain` on the items of an array. -/
def plainItems : Nat → List Json → Bool
  | _, [] => true
  | depth, x :: xs => plain depth x && plainItems depth xs

/-- `plain` on the values of an object. -/
def plainFields : Nat → List (String × Json) → Bool
  | _, [] => true
  | depth, (_, x) :: xs => plain depth x && plainFields depth xs

end

/-- The items of a plain array are plain. -/
theorem plain_of_mem_items {depth : Nat} {items : List Json} (h : plainItems depth items = true) :
    ∀ x ∈ items, plain depth x = true := by
  induction items with
  | nil => exact fun x hx => absurd hx List.not_mem_nil
  | cons first rest ih =>
    rw [plainItems, Bool.and_eq_true] at h
    intro x hx
    rcases List.mem_cons.1 hx with rfl | hmem
    · exact h.1
    · exact ih h.2 x hmem

/-- The values of a plain object are plain. -/
theorem plain_of_mem_fields {depth : Nat} {fields : List (String × Json)}
    (h : plainFields depth fields = true) : ∀ field ∈ fields, plain depth field.2 = true := by
  induction fields with
  | nil => exact fun field hfield => absurd hfield List.not_mem_nil
  | cons first rest ih =>
    obtain ⟨key, x⟩ := first
    rw [plainFields, Bool.and_eq_true] at h
    intro field hfield
    rcases List.mem_cons.1 hfield with rfl | hmem
    · exact h.1
    · exact ih h.2 field hmem

/-! ### Fields in order -/

/-- A field does not go in front of a field with a smaller key. -/
theorem insertField_cons_of_lt {key k : String} (h : k < key) (value v : Json)
    (rest : List (String × Json)) :
    insertField key value ((k, v) :: rest) = (k, v) :: insertField key value rest := by
  have hnot : ¬ key < k := fun hlt => String.lt_irrefl k (String.lt_trans h hlt)
  have hne : key ≠ k := by
    rintro rfl
    exact String.lt_irrefl key h
  rw [insertField, if_neg hnot, if_neg hne]

/-- A field with a greater key than all others comes last. -/
theorem insertField_of_forall_lt {key : String} {value : Json} {fields : List (String × Json)}
    (h : ∀ field ∈ fields, field.1 < key) :
    insertField key value fields = fields ++ [(key, value)] := by
  induction fields with
  | nil => rfl
  | cons first rest ih =>
    obtain ⟨k, v⟩ := first
    have hfirst : k < key := h (k, v) (by simp)
    have hrest := ih fun field hfield => h field (by simp [hfield])
    rw [insertField_cons_of_lt hfirst, hrest]
    rfl

/-- Fields that ascend are in order as they stand. -/
theorem ofFields_of_ascending {fields : List (String × Json)} (h : ascending fields = true) :
    ofFields fields = fields := by
  have hgeneral : ∀ before after : List (String × Json),
      ((before ++ after).map Prod.fst).Pairwise (· < ·) →
        after.foldl (fun sorted field => insertField field.1 field.2 sorted) before =
          before ++ after := by
    intro before after
    induction after generalizing before with
    | nil => simp
    | cons first rest ih =>
      intro hpairwise
      have hlt : ∀ field ∈ before, field.1 < first.1 := by
        intro field hfield
        rw [List.map_append, List.pairwise_append] at hpairwise
        exact hpairwise.2.2 field.1 (List.mem_map_of_mem hfield) first.1 (by simp)
      rw [List.foldl_cons, insertField_of_forall_lt hlt, ih]
      · simp
      · simpa using hpairwise
  exact hgeneral [] fields (of_decide_eq_true h)

/-- Fields with two keys may be inserted in either order. -/
theorem insertField_comm_of_lt {key key' : String} (hlt : key < key') (value value' : Json)
    (fields : List (String × Json)) :
    insertField key' value' (insertField key value fields) =
      insertField key value (insertField key' value' fields) := by
  induction fields with
  | nil =>
    rw [insertField, insertField_cons_of_lt hlt, insertField, insertField, if_pos hlt]
  | cons first rest ih =>
    obtain ⟨k, v⟩ := first
    by_cases hbefore : key < k
    · rw [insertField, if_pos hbefore, insertField_cons_of_lt hlt, insertField]
      by_cases hbefore' : key' < k
      · rw [if_pos hbefore', insertField, if_pos hlt]
      · by_cases hsame' : key' = k
        · rw [if_neg hbefore', if_pos hsame', insertField, if_pos hlt]
        · rw [if_neg hbefore', if_neg hsame', insertField, if_pos hbefore]
    · by_cases hsame : key = k
      · subst hsame
        rw [insertField, if_neg hbefore, if_pos rfl, insertField_cons_of_lt hlt,
          insertField_cons_of_lt hlt, insertField, if_neg hbefore, if_pos rfl]
      · have hafter : k < key := Decidable.byContradiction fun hnot =>
          hsame (String.le_antisymm (String.not_lt.1 hnot) (String.not_lt.1 hbefore))
        have hafter' : k < key' := String.lt_trans hafter hlt
        rw [insertField_cons_of_lt hafter, insertField_cons_of_lt hafter', ih,
          insertField_cons_of_lt hafter', insertField_cons_of_lt hafter]

/-- Fields of different keys may be put in their places in either order. -/
theorem insertField_comm {key key' : String} (hne : key ≠ key') (value value' : Json)
    (fields : List (String × Json)) :
    insertField key' value' (insertField key value fields) =
      insertField key value (insertField key' value' fields) := by
  by_cases hlt : key < key'
  · exact insertField_comm_of_lt hlt value value' fields
  · have hlt' : key' < key := Decidable.byContradiction fun hnot =>
      hne (String.le_antisymm (String.not_lt.1 hnot) (String.not_lt.1 hlt))
    exact (insertField_comm_of_lt hlt' value' value fields).symm

/-- An object has the same fields in whatever order its text lists them. -/
theorem ofFields_of_perm {written fields : List (String × Json)} (hperm : written.Perm fields)
    (h : ascending fields = true) : ofFields written = fields := by
  have hkeys : (fields.map Prod.fst).Pairwise (· < ·) := of_decide_eq_true h
  have hnodup : (fields.map Prod.fst).Nodup := hkeys.imp String.ne_of_lt
  have hdistinct : ∀ x ∈ fields, ∀ y ∈ fields, x.1 = y.1 → x = y :=
    fun x hx y hy => List.inj_on_of_nodup_map hnodup hx hy
  have hfold := hperm.symm.foldl_eq' (f := fun sorted field => insertField field.1 field.2 sorted)
    (fun x hx y hy sorted => by
      by_cases hkey : x.1 = y.1
      · rw [hdistinct x hx y hy hkey]
      · exact insertField_comm hkey x.2 y.2 sorted) []
  have hsorted := ofFields_of_ascending h
  rw [ofFields] at hsorted ⊢
  rw [← hfold, hsorted]

/-! ### How a document begins -/

/-- Whether a character can begin a document: no space and no end of an array or object. -/
def Opens (c : Char) : Prop :=
  isSpace c = false ∧ c ≠ ']' ∧ c ≠ '\x7d'

/-- No blank is skipped where there is none. -/
theorem skipSpace_cons {c : Char} (h : isSpace c = false) (rest : List Char) :
    skipSpace (c :: rest) = c :: rest := by
  rw [skipSpace, List.dropWhile_cons_of_neg (by simp [h])]

/-- A digit opens a number and nothing else. -/
theorem opens_digitChar {d : Nat} (h : d < 10) : Opens (Decimal.digitChar d) ∧
    Decimal.digitChar d ≠ '[' ∧ Decimal.digitChar d ≠ '\x7b' ∧ Decimal.digitChar d ≠ 'n' ∧
    Decimal.digitChar d ≠ 't' ∧ Decimal.digitChar d ≠ 'f' ∧ Decimal.digitChar d ≠ '"' := by
  unfold Opens
  revert d
  decide

/-- The digits of an integer begin with a sign or a digit, which begins nothing else. -/
theorem intDigits_eq_cons (i : Int) : ∃ c rest, Decimal.intDigits i = c :: rest ∧ Opens c ∧
    c ≠ '[' ∧ c ≠ '\x7b' ∧ c ≠ 'n' ∧ c ≠ 't' ∧ c ≠ 'f' ∧ c ≠ '"' := by
  cases i with
  | ofNat n =>
    obtain ⟨d, rest, hd, hdigits, -⟩ := Decimal.exists_natDigits_eq_cons n
    exact ⟨Decimal.digitChar d, rest, hdigits, opens_digitChar hd⟩
  | negSucc n =>
    refine ⟨'-', Decimal.natDigits (n + 1), rfl, ?_⟩
    unfold Opens
    decide

/-- A plain document begins with a character that can begin one. -/
theorem chars_eq_cons {depth : Nat} {x : Json} (h : plain depth x = true) :
    ∃ c rest, chars x = c :: rest ∧ Opens c := by
  have hfixed : ∀ c ∈ ['n', 't', 'f', '"', '[', '\x7b'], Opens c := by
    intro c hc
    simp only [List.mem_cons, List.not_mem_nil, or_false] at hc
    unfold Opens
    rcases hc with rfl | rfl | rfl | rfl | rfl | rfl <;> decide
  cases x with
  | null => exact ⟨'n', _, rfl, hfixed _ (by simp)⟩
  | bool value =>
    cases value with
    | true => exact ⟨'t', _, rfl, hfixed _ (by simp)⟩
    | false => exact ⟨'f', _, rfl, hfixed _ (by simp)⟩
  | num value =>
    cases value with
    | int i =>
      obtain ⟨c, rest, hdigits, hopens, -⟩ := intDigits_eq_cons i
      refine ⟨c, rest, ?_, hopens⟩
      rw [chars, Number.text, Decimal.toList_intText, hdigits]
    | real value => simp [plain] at h
  | str s => exact ⟨'"', _, rfl, hfixed _ (by simp)⟩
  | arr items => cases items <;> exact ⟨'[', _, rfl, hfixed _ (by simp)⟩
  | obj fields => cases fields <;> exact ⟨'\x7b', _, rfl, hfixed _ (by simp)⟩

/-! ### Items and fields one after the other -/

section Sequences

variable {α : Type}

/-- What follows a value in an array or an object does not go on with a number. -/
theorem stops_punctuation {c : Char} (h : c ∈ [',', ']', '\x7d']) (rest : List Char) :
    Stops (c :: rest) := by
  apply stops_cons
  simp only [List.mem_cons, List.not_mem_nil, or_false] at h
  rcases h with rfl | rfl | rfl <;> decide

/-- A number ends where the array goes on. -/
theorem stops_itemChars (items : List Json) (rest : List Char) :
    Stops (itemChars items ++ rest) := by
  cases items <;> exact stops_punctuation (by simp) _

/-- A number ends where the object goes on. -/
theorem stops_fieldChars (fields : List (String × Json)) (rest : List Char) :
    Stops (fieldChars fields ++ rest) := by
  cases fields <;> exact stops_punctuation (by simp) _

/-- There are fewer items than characters that list them. -/
theorem length_lt_itemChars (items : List Json) : items.length < (itemChars items).length := by
  induction items with
  | nil => simp [itemChars]
  | cons x xs ih =>
    simp only [itemChars, List.length_cons, List.length_append]
    omega

/-- There are fewer fields than characters that list them. -/
theorem length_lt_fieldChars (fields : List (String × Json)) :
    fields.length < (fieldChars fields).length := by
  induction fields with
  | nil => simp [fieldChars]
  | cons first rest ih =>
    obtain ⟨key, x⟩ := first
    simp only [fieldChars, List.length_cons, List.length_append]
    omega

/-- The items after the first read back when each of them does. -/
theorem moreItems_itemChars {item : Reader Json} {items : List Json}
    (hitem : ∀ x ∈ items, ∀ rest, Stops rest → item (chars x ++ rest) = some (x, rest))
    {fuel : Nat} (hfuel : items.length < fuel) (rest : List Char) :
    moreItems item fuel (itemChars items ++ rest) = some (items, rest) := by
  induction items generalizing fuel with
  | nil =>
    obtain ⟨fuel, rfl⟩ : ∃ k, fuel = k + 1 := ⟨fuel - 1, by omega⟩
    rfl
  | cons x xs ih =>
    obtain ⟨fuel, rfl⟩ : ∃ k, fuel = k + 1 := ⟨fuel - 1, by omega⟩
    have hx := hitem x (by simp) _ (stops_itemChars xs rest)
    have hxs := ih (fun y hy => hitem y (by simp [hy])) (Nat.lt_of_succ_lt_succ hfuel)
    have hspace : skipSpace (itemChars (x :: xs) ++ rest) =
        ',' :: (chars x ++ (itemChars xs ++ rest)) := by
      rw [itemChars, List.cons_append, List.append_assoc, skipSpace_cons (by decide)]
    simp only [moreItems, hspace, hx, Option.bind_some, hxs, Option.map_some]

/-- A field reads back with its key when its value does. -/
theorem fieldOf_quote {item : String → Reader α} {key : String} {value : α}
    {before rest : List Char} (hvalue : item key before = some (value, rest)) :
    fieldOf item (quote key ++ ':' :: before) = some ((key, value), rest) := by
  have hquote : expect '"' (quote key ++ ':' :: before) =
      some (quoteTail key ++ ':' :: before) := by
    rw [quote_eq, List.cons_append, expect, skipSpace_cons (by decide)]
    rfl
  have hcolon : expect ':' (':' :: before) = some before := by
    rw [expect, skipSpace_cons (by decide)]
    rfl
  simp only [fieldOf, hquote, Option.bind_eq_bind, Option.bind_some, stringTail_quoteTail, hcolon,
    hvalue]

/-- The fields after the first read back when their values do. -/
theorem moreFields_fieldChars {item : String → Reader α} {made : String → Json → α}
    {fields : List (String × Json)}
    (hitem : ∀ field ∈ fields, ∀ rest, Stops rest →
      item field.1 (chars field.2 ++ rest) = some (made field.1 field.2, rest))
    {fuel : Nat} (hfuel : fields.length < fuel) (rest : List Char) :
    moreFields item fuel (fieldChars fields ++ rest) =
      some (fields.map fun field => (field.1, made field.1 field.2), rest) := by
  induction fields generalizing fuel with
  | nil =>
    obtain ⟨fuel, rfl⟩ : ∃ k, fuel = k + 1 := ⟨fuel - 1, by omega⟩
    rfl
  | cons first more ih =>
    obtain ⟨key, x⟩ := first
    obtain ⟨fuel, rfl⟩ : ∃ k, fuel = k + 1 := ⟨fuel - 1, by omega⟩
    have hx := fieldOf_quote (hitem (key, x) (by simp) _ (stops_fieldChars more rest))
    have hmore := ih (fun field hfield => hitem field (by simp [hfield]))
      (Nat.lt_of_succ_lt_succ hfuel)
    have hspace : skipSpace (fieldChars ((key, x) :: more) ++ rest) =
        ',' :: (quote key ++ ':' :: (chars x ++ (fieldChars more ++ rest))) := by
      rw [fieldChars, List.cons_append, skipSpace_cons (by decide)]
      simp only [List.append_assoc, List.cons_append]
    simp only [moreFields, hspace, hx, Option.bind_some, hmore, Option.map_some, List.map_cons]

/-- The characters of an array after its opening bracket. -/
def arrayTail : List Json → List Char
  | [] => [']']
  | x :: xs => chars x ++ itemChars xs

/-- The characters of an object after its opening brace. -/
def objectTail : List (String × Json) → List Char
  | [] => ['\x7d']
  | (key, x) :: more => quote key ++ ':' :: (chars x ++ fieldChars more)

/-- An array is its bracket and its tail. -/
theorem chars_arr (items : List Json) : chars (.arr items) = '[' :: arrayTail items := by
  cases items <;> rfl

/-- An object is its brace and its tail. -/
theorem chars_obj (fields : List (String × Json)) :
    chars (.obj fields) = '\x7b' :: objectTail fields := by
  cases fields <;> rfl

/-- An array reads back after its opening bracket when its items do. -/
theorem itemsTail_arrayTail {item : Reader Json} {depth : Nat} {items : List Json}
    (hplain : ∀ x ∈ items, plain depth x = true)
    (hitem : ∀ x ∈ items, ∀ rest, Stops rest → item (chars x ++ rest) = some (x, rest))
    (rest : List Char) : itemsTail item (arrayTail items ++ rest) = some (items, rest) := by
  cases items with
  | nil => rfl
  | cons x xs =>
    have hx := hitem x (by simp) _ (stops_itemChars xs rest)
    have hfuel : xs.length < (itemChars xs ++ rest).length + 1 := by
      have := length_lt_itemChars xs
      rw [List.length_append]
      omega
    have hxs := moreItems_itemChars (fun y hy => hitem y (by simp [hy])) hfuel rest
    obtain ⟨c, tail, hchars, hspace, hclose, -⟩ := chars_eq_cons (hplain x (by simp))
    have htail : arrayTail (x :: xs) ++ rest = c :: (tail ++ (itemChars xs ++ rest)) := by
      rw [arrayTail, hchars, List.cons_append, List.cons_append, List.append_assoc]
    rw [hchars] at hx
    rw [itemsTail, htail, skipSpace_cons hspace]
    split
    · rename_i heq
      exact absurd (List.cons.inj heq).1 hclose
    · rw [← List.cons_append, hx, Option.bind_some]
      simp only [hxs, Option.map_some]

/-- An object reads back after its opening brace when the values of its fields do. -/
theorem fieldsTail_objectTail (item : String → Reader α) (made : String → Json → α)
    {fields : List (String × Json)}
    (hitem : ∀ field ∈ fields, ∀ rest, Stops rest →
      item field.1 (chars field.2 ++ rest) = some (made field.1 field.2, rest))
    (rest : List Char) :
    fieldsTail item (objectTail fields ++ rest) =
      some (fields.map fun field => (field.1, made field.1 field.2), rest) := by
  cases fields with
  | nil => rfl
  | cons first more =>
    obtain ⟨key, x⟩ := first
    have hx := fieldOf_quote (hitem (key, x) (by simp) _ (stops_fieldChars more rest))
    have hfuel : more.length < (fieldChars more ++ rest).length + 1 := by
      have := length_lt_fieldChars more
      rw [List.length_append]
      omega
    have hmore := moreFields_fieldChars (fun field hfield => hitem field (by simp [hfield]))
      hfuel rest
    have htail : objectTail ((key, x) :: more) ++ rest =
        quote key ++ ':' :: (chars x ++ (fieldChars more ++ rest)) := by
      simp only [objectTail, List.append_assoc, List.cons_append]
    have hspace : skipSpace (quote key ++ ':' :: (chars x ++ (fieldChars more ++ rest))) =
        '"' :: (quoteTail key ++ ':' :: (chars x ++ (fieldChars more ++ rest))) := by
      rw [quote_eq, List.cons_append, skipSpace_cons (by decide)]
    rw [htail]
    unfold fieldsTail
    rw [hspace, hx]
    split
    · rename_i heq
      exact absurd (List.cons.inj heq).1 (by decide)
    · simp only [Option.bind_some, hmore, Option.map_some, List.map_cons]

end Sequences

/-! ### Whole documents -/

/-- After what makes up a whole text there is only space. -/
theorem exists_of_whole {α : Type} {reader : Reader α} {text : String} {x : α}
    (h : whole reader text = some x) :
    ∃ rest, reader text.toList = some (x, rest) ∧ skipSpace rest = [] := by
  rw [whole] at h
  split at h
  · rename_i y rest hread
    obtain ⟨hempty, hx⟩ := Option.ite_none_right_eq_some.1 h
    exact ⟨rest, Option.some.inj hx ▸ hread, List.isEmpty_iff.1 hempty⟩
  · cases h

/-- A document that is neither array nor object reads as a scalar, however deep it is. -/
theorem value_of_scalar {c : Char} (hspace : isSpace c = false) (harr : c ≠ '[')
    (hobj : c ≠ '\x7b') (depth : Nat) (rest : List Char) :
    value depth (c :: rest) = scalar (c :: rest) := by
  cases depth with
  | zero =>
    rw [value, skipSpace_cons hspace]
    split
    · rename_i heq
      exact absurd (List.cons.inj heq).1 harr
    · rename_i heq
      exact absurd (List.cons.inj heq).1 hobj
    · rfl
  | succ depth =>
    rw [value, skipSpace_cons hspace]
    split
    · rename_i heq
      exact absurd (List.cons.inj heq).1 harr
    · rename_i heq
      exact absurd (List.cons.inj heq).1 hobj
    · rfl

/-- An integer reads back as a document. -/
theorem value_int {i : Int} (hmin : minInt ≤ i) (hmax : i ≤ maxInt) (depth : Nat)
    {rest : List Char} (hrest : Stops rest) :
    value depth (chars (.num (.int i)) ++ rest) = some (.num (.int i), rest) := by
  obtain ⟨c, tail, hdigits, ⟨hspace, -⟩, harr, hobj, hn, ht, hf, hquote⟩ := intDigits_eq_cons i
  have hnumber := number_intDigits hmin hmax hrest
  rw [chars, Number.text, Decimal.toList_intText]
  rw [hdigits, List.cons_append] at hnumber ⊢
  rw [value_of_scalar hspace harr hobj]
  unfold scalar
  split
  · rename_i heq
    exact absurd (List.cons.inj heq).1 hn
  · rename_i heq
    exact absurd (List.cons.inj heq).1 ht
  · rename_i heq
    exact absurd (List.cons.inj heq).1 hf
  · rename_i heq
    exact absurd (List.cons.inj heq).1 hquote
  · rw [hnumber]
    rfl

/-- A string reads back as a document. -/
theorem value_str (s : String) (depth : Nat) (rest : List Char) :
    value depth (chars (.str s) ++ rest) = some (.str s, rest) := by
  rw [chars, quote_eq, List.cons_append, value_of_scalar (by decide) (by decide) (by decide),
    scalar, stringTail_quoteTail]
  rfl

/-- An object reads back with its fields in order when their values read back. -/
theorem value_obj {depth : Nat} {fields : List (String × Json)}
    (hvalue : ∀ field ∈ fields, ∀ rest, Stops rest →
      value depth (chars field.2 ++ rest) = some (field.2, rest)) (rest : List Char) :
    value (depth + 1) (chars (.obj fields) ++ rest) = some (.obj (ofFields fields), rest) := by
  have hfields := fieldsTail_objectTail (fun _ => value depth) (fun _ x => x) hvalue rest
  have hsame : (fields.map fun field => (field.1, field.2)) = fields := List.map_id fields
  rw [chars_obj, List.cons_append, value, skipSpace_cons (by decide)]
  simp only [hfields, Option.map_some, hsame]

/-- A plain document reads back. -/
theorem value_chars {depth : Nat} {x : Json} (h : plain depth x = true) {rest : List Char}
    (hrest : Stops rest) : value depth (chars x ++ rest) = some (x, rest) := by
  induction depth generalizing x rest with
  | zero =>
    cases x with
    | null => rfl
    | bool value => cases value <;> rfl
    | num number =>
      cases number with
      | int i =>
        rw [plain, Bool.and_eq_true, decide_eq_true_iff, decide_eq_true_iff] at h
        exact value_int h.1 h.2 0 hrest
      | real value => simp [plain] at h
    | str s => exact value_str s 0 rest
    | arr items => simp [plain] at h
    | obj fields => simp [plain] at h
  | succ depth ih =>
    cases x with
    | null => rfl
    | bool value => cases value <;> rfl
    | num number =>
      cases number with
      | int i =>
        rw [plain, Bool.and_eq_true, decide_eq_true_iff, decide_eq_true_iff] at h
        exact value_int h.1 h.2 (depth + 1) hrest
      | real value => simp [plain] at h
    | str s => exact value_str s (depth + 1) rest
    | arr items =>
      rw [plain] at h
      have hplain := plain_of_mem_items h
      have hitems := itemsTail_arrayTail hplain
        (fun x hx more hmore => ih (hplain x hx) hmore) rest
      rw [chars_arr, List.cons_append, value, skipSpace_cons (by decide)]
      simp only [hitems, Option.map_some]
    | obj fields =>
      rw [plain, Bool.and_eq_true] at h
      have hplain := plain_of_mem_fields h.2
      rw [value_obj (fun field hfield more hmore => ih (hplain field hfield) hmore),
        ofFields_of_ascending h.1]

/-- The text of a plain object has its fields, in whatever order it lists them. -/
theorem object_text {written fields : List (String × Json)} (hperm : written.Perm fields)
    (h : plain maxDepth (.obj fields) = true) :
    object (Json.obj written).text = some fields := by
  have hsplit : (ascending fields && plainFields (maxDepth - 1) fields) = true := h
  rw [Bool.and_eq_true] at hsplit
  have hplain := plain_of_mem_fields hsplit.2
  have hobject := value_obj (fun field hfield more hmore =>
    value_chars (hplain field (hperm.mem_iff.1 hfield)) hmore) []
  rw [List.append_nil, ofFields_of_perm hperm hsplit.1] at hobject
  have hvalue : value maxDepth (chars (.obj written)) = some (.obj fields, []) := hobject
  rw [object, parse, whole, text, String.toList_ofList, hvalue]
  rfl

/-- A record reads back from an object with some of its fields, when they are plain. -/
theorem record_text {keys : List String} {fields : List (String × Json)}
    (hkeys : ∀ field ∈ fields, keys.contains field.1 = true)
    (hplain : ∀ field ∈ fields, plain (maxDepth - 1) field.2 = true) :
    record keys (Json.obj fields).text =
      record.align keys (fields.map fun field => (field.1, some field.2)) := by
  have hvalue : ∀ field ∈ fields, ∀ rest, Stops rest →
      record.fieldValue keys field.1 (chars field.2 ++ rest) = some (some field.2, rest) := by
    intro field hfield rest hrest
    rw [record.fieldValue, if_pos (hkeys field hfield), value_chars (hplain field hfield) hrest]
    rfl
  have hfields := fieldsTail_objectTail (record.fieldValue keys) (fun _ x => some x) hvalue []
  rw [List.append_nil] at hfields
  rw [record, whole, text, String.toList_ofList, chars_obj, record.body,
    skipSpace_cons (by decide)]
  simp only [hfields, Option.bind_some]
  cases record.align keys (fields.map fun field => (field.1, some field.2)) <;> rfl

end Parley.Json
