/-
# Records among the documents

A record has a reader of its own.  Of an object it keeps the values of the known keys, none of
which may come twice, and passes over all others; in an array the values come in order.  When
the text of a record is the text of a document, the record has the columns of this document
(`record_eq_columns`).  So the records in two texts of equal documents differ in nothing but
the signs of zeros (`normal_record_eq`), if both are records at all.
-/

import Parley.Proofs.Json.Document
import Parley.Proofs.Json.Equivalence
import Parley.Proofs.Json.Skip

namespace Parley.Json

variable {cs rest : List Char} {x : Json} {keys : List String} {text : String}

/-! ### Fields read with other values -/

section Fields

variable {α β : Type} {item : String → Reader α} {item' : String → Reader β}
  {made : String → α → β}
  (hitem : ∀ key cs x rest,
    item key cs = some (x, rest) → item' key cs = some (made key x, rest))

include hitem

/-- A field whose value is made from another one. -/
theorem fieldOf_of_fieldOf {field : String × α} (h : fieldOf item cs = some (field, rest)) :
    fieldOf item' cs = some ((field.1, made field.1 field.2), rest) := by
  obtain ⟨key, colon, tail, hquote, hname, hcolon, hvalue⟩ := parts_of_fieldOf h
  simp only [fieldOf, hquote, hname, hcolon, hitem _ _ _ _ hvalue, Option.bind_eq_bind,
    Option.bind_some]

/-- Fields are read alike by readers that agree on the items. -/
theorem moreFields_of_moreFields {fuel : Nat} {fields : List (String × α)}
    (h : moreFields item fuel cs = some (fields, rest)) :
    moreFields item' fuel cs =
      some (fields.map fun field => (field.1, made field.1 field.2), rest) := by
  induction fuel generalizing cs fields with
  | zero => cases h
  | succ fuel ih =>
    unfold moreFields at h ⊢
    split at h
    · cases h
      rfl
    · obtain ⟨⟨field, mid⟩, hfield, h⟩ := Option.bind_eq_some_iff.1 h
      obtain ⟨⟨more, _⟩, hmore, hpair⟩ := Option.map_eq_some_iff.1 h
      cases hpair
      simp only [fieldOf_of_fieldOf hitem hfield, Option.bind_some, ih hmore, Option.map_some,
        List.map_cons]
    · cases h

/-- An object has the same fields, with other values, when these are read in the same places. -/
theorem fieldsTail_of_fieldsTail {fields : List (String × α)}
    (h : fieldsTail item cs = some (fields, rest)) :
    fieldsTail item' cs =
      some (fields.map fun field => (field.1, made field.1 field.2), rest) := by
  unfold fieldsTail at h ⊢
  split at h
  · cases h
    rfl
  · obtain ⟨⟨field, mid⟩, hfield, h⟩ := Option.bind_eq_some_iff.1 h
    obtain ⟨⟨more, _⟩, hmore, hpair⟩ := Option.map_eq_some_iff.1 h
    cases hpair
    simp only [fieldOf_of_fieldOf hitem hfield, Option.bind_some,
      moreFields_of_moreFields hitem hmore, Option.map_some, List.map_cons]

end Fields

/-! ### Lookup -/

/-- A field is found at the front or behind. -/
theorem field?_cons (key k : String) (v : Json) (fields : List (String × Json)) :
    field? key ((k, v) :: fields) = if k = key then some v else field? key fields := by
  by_cases h : k = key <;> simp [field?, h]

/-- The field that was put in its place is found under its key, and no other is concerned. -/
theorem field?_insertField (key other : String) (x : Json) (fields : List (String × Json)) :
    field? other (insertField key x fields) =
      if key = other then some x else field? other fields := by
  induction fields with
  | nil => rw [insertField, field?_cons]
  | cons first more ih =>
    obtain ⟨k, v⟩ := first
    rw [insertField]
    split
    · rw [field?_cons]
    · split
      · rename_i hsame
        rw [field?_cons, field?_cons, hsame]
        split <;> rfl
      · rename_i hne
        rw [field?_cons, field?_cons, ih]
        by_cases hk : k = other
        · rw [if_pos hk, if_pos hk, if_neg fun heq => hne (heq.trans hk.symm)]
        · rw [if_neg hk, if_neg hk]

/-- Of several values of one key the last counts. -/
theorem field?_ofFields (key : String) (written : List (String × Json)) :
    field? key (ofFields written) = field? key written.reverse := by
  induction written using List.reverseRecOn with
  | nil => rfl
  | append_singleton written last ih =>
    have hfields : ofFields (written ++ [last]) = insertField last.1 last.2 (ofFields written) :=
      List.foldl_append
    rw [hfields, field?_insertField, ih, List.reverse_append, List.reverse_singleton,
      List.singleton_append, field?_cons]

/-- A key that comes at most once. -/
theorem field?_eq_of_filter {key : String} {written found : List (String × Json)}
    (h : written.filter (fun field => field.1 == key) = found) :
    field? key (ofFields written) = found.reverse.head?.map (·.2) := by
  rw [field?_ofFields, field?, ← List.head?_filter, List.filter_reverse, h]

/-- Fields of which those that a record has no key for have lost their value. -/
def known (keys : List String) (written : List (String × Json)) : List (String × Option Json) :=
  written.map fun field => (field.1, if keys.contains field.1 then some field.2 else none)

/-- The known fields with a known key are all that were written with it. -/
theorem filter_known {key : String} (hkey : keys.contains key = true)
    (written : List (String × Json)) :
    (known keys written).filter (fun field => field.1 == key) =
      (written.filter fun field => field.1 == key).map fun field => (field.1, some field.2) := by
  rw [known, List.filter_map]
  refine List.map_congr_left fun field hfield => ?_
  have hsame : field.1 = key := beq_iff_eq.1 (List.mem_filter.1 hfield).2
  rw [hsame, if_pos hkey]

/-- What is made of all elements of a list, if it can be made of each. -/
theorem eq_map_of_mapM {α β : Type} {f : α → Option β} {g : α → β} {xs : List α} {ys : List β}
    (hf : ∀ x ∈ xs, ∀ y, f x = some y → y = g x) (h : xs.mapM f = some ys) : ys = xs.map g := by
  induction xs generalizing ys with
  | nil =>
    cases h
    rfl
  | cons x xs ih =>
    rw [List.mapM_cons] at h
    obtain ⟨y, hy, h⟩ := Option.bind_eq_some_iff.1 h
    obtain ⟨more, hmore, hys⟩ := Option.bind_eq_some_iff.1 h
    cases hys
    rw [List.map_cons, hf x (by simp) y hy, ih (fun x' hx' => hf x' (by simp [hx'])) hmore]

/-- The columns of an object in which no key of the record comes twice. -/
theorem eq_of_align {written : List (String × Json)} {values : List (Option Json)}
    (h : record.align keys (known keys written) = some values) :
    values = keys.map fun key => field? key (ofFields written) := by
  refine eq_map_of_mapM (fun key hkey value hvalue => ?_) h
  have hfilter := filter_known (List.contains_iff_mem.2 hkey) written
  cases hfound : written.filter fun field => field.1 == key with
  | nil =>
    rw [hfound] at hfilter
    rw [hfilter] at hvalue
    rw [field?_eq_of_filter hfound]
    exact (Option.some.inj hvalue).symm
  | cons first more =>
    rw [hfound] at hfilter
    rw [hfilter] at hvalue
    cases more with
    | nil =>
      rw [field?_eq_of_filter hfound]
      exact (Option.some.inj hvalue).symm
    | cons second more => cases hvalue

/-! ### Columns -/

/-- The values of a record of the fields `keys` in a document, by name in an object and in order
in an array. -/
def columns (keys : List String) : Json → List (Option Json)
  | .obj fields => keys.map fun key => field? key fields
  | .arr items => items.map some ++ List.replicate (keys.length - items.length) none
  | _ => []

/-- The value of a known key is kept, any other is passed over. -/
theorem fieldValue_of_value {key : String} (h : value (maxDepth - 1) cs = some (x, rest)) :
    record.fieldValue keys key cs =
      some (if keys.contains key then some x else none, rest) := by
  rw [record.fieldValue]
  split
  · rw [h, Option.map_some]
  · rw [skip_of_value h, Option.map_some]

/-- An object is read as a record by its known fields. -/
theorem body_of_object {tail : List Char} {written : List (String × Json)}
    (hopen : skipSpace cs = '\x7b' :: tail)
    (h : fieldsTail (fun _ => value (maxDepth - 1)) tail = some (written, rest)) :
    record.body keys cs = (record.align keys (known keys written)).map (·, rest) := by
  have hitem : ∀ key cs x rest, value (maxDepth - 1) cs = some (x, rest) →
      record.fieldValue keys key cs = some (if keys.contains key then some x else none, rest) :=
    fun _ _ _ _ => fieldValue_of_value
  have hfields := fieldsTail_of_fieldsTail hitem h
  unfold record.body
  simp only [hopen, hfields, Option.bind_some]
  rfl

/-- An array is read as a record by position, if it is not too long. -/
theorem body_of_array {tail : List Char} {items : List Json}
    (hopen : skipSpace cs = '[' :: tail)
    (h : itemsTail (value (maxDepth - 1)) tail = some (items, rest)) :
    record.body keys cs =
      if items.length ≤ keys.length then some (columns keys (.arr items), rest) else none := by
  unfold record.body
  simp only [hopen, h, Option.bind_some]
  rfl

/-- A record has the columns of the document that its text stands for, if for any. -/
theorem record_eq_columns {values : List (Option Json)} (h : parse text = some x)
    (hrecord : record keys text = some values) : values = columns keys x := by
  obtain ⟨rest, hvalue, -⟩ := exists_of_whole h
  obtain ⟨rest', hbody, -⟩ := exists_of_whole hrecord
  have hdepth : maxDepth = (maxDepth - 1) + 1 := rfl
  rw [hdepth, value] at hvalue
  split at hvalue
  · rename_i hopen
    obtain ⟨⟨items, _⟩, hitems, hpair⟩ := Option.map_eq_some_iff.1 hvalue
    cases hpair
    rw [body_of_array hopen hitems] at hbody
    obtain ⟨-, hpair⟩ := Option.ite_none_right_eq_some.1 hbody
    cases hpair
    rfl
  · rename_i hopen
    obtain ⟨⟨written, _⟩, hwritten, hpair⟩ := Option.map_eq_some_iff.1 hvalue
    cases hpair
    rw [body_of_object hopen hwritten] at hbody
    obtain ⟨_, halign, hpair⟩ := Option.map_eq_some_iff.1 hbody
    cases hpair
    exact eq_of_align halign
  · rename_i harr hobj
    unfold record.body at hbody
    split at hbody
    · rename_i heq
      exact absurd heq (hobj _)
    · rename_i heq
      exact absurd heq (harr _)
    · cases hbody

/-! ### Equal documents -/

/-- The normal form of items is taken one by one. -/
theorem normalItems_eq_map (items : List Json) : normalItems items = items.map normal := by
  induction items with
  | nil => rfl
  | cons x xs ih => rw [normalItems, ih, List.map_cons]

/-- A field of the normal form is the normal form of the field. -/
theorem field?_normalFields (key : String) (fields : List (String × Json)) :
    field? key (normalFields fields) = (field? key fields).map normal := by
  induction fields with
  | nil => rfl
  | cons first more ih =>
    obtain ⟨k, v⟩ := first
    rw [normalFields, field?_cons, field?_cons, ih]
    split <;> rfl

/-- The columns of the normal form of a document. -/
theorem columns_normal (keys : List String) (x : Json) :
    columns keys x.normal = (columns keys x).map fun value => value.map normal := by
  cases x with
  | obj fields => simp [columns, normal, field?_normalFields]
  | arr items => simp [columns, normal, normalItems_eq_map]
  | _ => rfl

/-- Two texts of equal documents have the same record but for the signs of zeros, if both are
the texts of records. -/
theorem normal_record_eq {text' : String} {x' : Json} {values values' : List (Option Json)}
    (h : parse text = some x) (h' : parse text' = some x') (hsame : x.normal = x'.normal)
    (hrecord : record keys text = some values) (hrecord' : record keys text' = some values') :
    (values.map fun value => value.map normal) = values'.map fun value => value.map normal := by
  rw [record_eq_columns h hrecord, record_eq_columns h' hrecord', ← columns_normal,
    ← columns_normal, hsame]

end Parley.Json
