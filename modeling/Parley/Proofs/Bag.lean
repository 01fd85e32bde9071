/-
# Contents of bags

What is found under a key after each operation, and that a bag is determined by what is
found under its keys.  The entries are in ascending order, so inserting the entries of a
bag one after the other builds the same bag again.
-/

import Parley.Proofs.Association
import Parley.Bag

namespace Parley

namespace Bag

/-- What was inserted is found under its key, and all else as before. -/
theorem lookup_insertEntry (key other : String) (value : Option String)
    (entries : List (String × Option String)) :
    (insertEntry key value entries).lookup other =
      if other = key then some value else entries.lookup other := by
  induction entries with
  | nil => simp [insertEntry, lookup_cons_eq_ite]
  | cons first rest ih =>
    obtain ⟨k, v⟩ := first
    rw [insertEntry]
    by_cases hlt : key < k
    · simp only [if_pos hlt, lookup_cons_eq_ite]
    · by_cases heq : key = k
      · subst heq
        by_cases h : other = key <;> simp [lookup_cons_eq_ite, h]
      · by_cases h : other = key
        · subst h
          simpa [hlt, heq, lookup_cons_eq_ite] using ih
        · simp [hlt, heq, lookup_cons_eq_ite, ih, h]

/-- An insertion gives its key the new state and leaves all other keys alone. -/
@[simp]
theorem get?_insert (b : Bag) (key other : String) (value : Option String) :
    (b.insert key value).get? other = if other = key then some value else b.get? other :=
  lookup_insertEntry key other value b.entries

/-- Erasing a key makes it absent and leaves all other keys alone. -/
@[simp]
theorem get?_erase (b : Bag) (key other : String) :
    (b.erase key).get? other = if other = key then none else b.get? other :=
  lookup_filter_ne key other b.entries

@[simp]
theorem get?_empty (key : String) : empty.get? key = none := rfl

@[simp]
theorem text?_insert (b : Bag) (key other : String) (value : Option String) :
    (b.insert key value).text? other = if other = key then value else b.text? other := by
  by_cases h : other = key <;> simp [text?, h]

@[simp]
theorem text?_erase (b : Bag) (key other : String) :
    (b.erase key).text? other = if other = key then none else b.text? other := by
  by_cases h : other = key <;> simp [text?, h]

@[simp]
theorem text?_empty (key : String) : empty.text? key = none := rfl

/-! ### Contents by keys -/

/-- Under a key stands what was inserted for it last, and what was there before when
nothing was. -/
theorem get?_foldl_insert (b : Bag) (entries : List (String × Option String)) (key : String) :
    (entries.foldl (fun b entry => b.insert entry.1 entry.2) b).get? key =
      (entries.reverse.lookup key).or (b.get? key) := by
  induction entries generalizing b with
  | nil => rfl
  | cons first rest ih =>
    obtain ⟨k, v⟩ := first
    rw [List.foldl_cons, ih, get?_insert, List.reverse_cons, List.lookup_append, Option.or_assoc,
      lookup_cons_eq_ite]
    by_cases h : key = k <;> simp [h]

/-- Of the entries with one key the last one counts. -/
theorem get?_ofList (entries : List (String × Option String)) (key : String) :
    (ofList entries).get? key = entries.reverse.lookup key := by
  rw [ofList, get?_foldl_insert, get?_empty, Option.or_none]

/-- A key in front of all others is not found among them. -/
theorem lookup_of_forall_lt {key : String} {entries : List (String × Option String)}
    (h : ∀ entry ∈ entries, key < entry.1) : entries.lookup key = none := by
  cases hfound : entries.lookup key with
  | none => rfl
  | some value => exact absurd (h _ (mem_of_lookup hfound)) (String.lt_irrefl key)

/-- No key that is found lies in front of the first one. -/
theorem not_lt_of_lookup {key k : String} {value v : Option String}
    {rest : List (String × Option String)} (h : Ascending ((k, v) :: rest))
    (hfound : ((k, v) :: rest).lookup key = some value) : ¬ key < k := by
  intro hlt
  have hrest := (List.pairwise_cons.1 h).1
  rw [lookup_of_forall_lt fun entry hmem => ?_] at hfound
  · cases hfound
  · rcases List.mem_cons.1 hmem with rfl | hmem
    · exact hlt
    · exact String.lt_trans hlt (hrest entry hmem)

/-- Entries in ascending order are determined by what is found among them. -/
theorem eq_of_lookup_eq {as bs : List (String × Option String)} (has : Ascending as)
    (hbs : Ascending bs) (h : ∀ key, as.lookup key = bs.lookup key) : as = bs := by
  induction as generalizing bs with
  | nil =>
    cases bs with
    | nil => rfl
    | cons first rest =>
      have hfirst := h first.1
      rw [lookup_cons_eq_ite, if_pos rfl] at hfirst
      cases hfirst
  | cons first rest ih =>
    obtain ⟨k, v⟩ := first
    have hk := h k
    rw [lookup_cons_eq_ite, if_pos rfl] at hk
    cases bs with
    | nil => cases hk
    | cons first' rest' =>
      obtain ⟨k', v'⟩ := first'
      have hk' := h k'
      rw [lookup_cons_eq_ite k' k', if_pos rfl] at hk'
      obtain rfl : k = k' := String.le_antisymm
        (String.not_lt.1 (not_lt_of_lookup has hk'))
        (String.not_lt.1 (not_lt_of_lookup hbs hk.symm))
      rw [lookup_cons_eq_ite, if_pos rfl] at hk
      obtain rfl := Option.some.inj hk
      obtain ⟨hfirst, hrest⟩ := List.pairwise_cons.1 has
      obtain ⟨hfirst', hrest'⟩ := List.pairwise_cons.1 hbs
      refine congrArg _ (ih hrest hrest' fun key => ?_)
      have hkey := h key
      rw [lookup_cons_eq_ite, lookup_cons_eq_ite] at hkey
      by_cases heq : key = k
      · subst heq
        rw [lookup_of_forall_lt hfirst, lookup_of_forall_lt hfirst']
      · rwa [if_neg heq, if_neg heq] at hkey

/-- A bag is determined by what is found under its keys. -/
theorem ext_get? {a b : Bag} (h : ∀ key, a.get? key = b.get? key) : a = b :=
  ext (eq_of_lookup_eq a.ascending b.ascending h)

/-! ### Rebuilding a bag -/

/-- A key behind all others is put at the end. -/
theorem insertEntry_of_forall_lt {key : String} {value : Option String}
    {entries : List (String × Option String)} (h : ∀ entry ∈ entries, entry.1 < key) :
    insertEntry key value entries = entries ++ [(key, value)] := by
  induction entries with
  | nil => rfl
  | cons first rest ih =>
    obtain ⟨k, v⟩ := first
    have hk : k < key := h (k, v) (by simp)
    have hne : key ≠ k := by
      rintro rfl
      exact String.lt_irrefl _ hk
    have hle : ¬ key < k := fun hlt => String.lt_irrefl _ (String.lt_trans hk hlt)
    rw [insertEntry, if_neg hle, if_neg hne, ih fun entry hmem => h entry (by simp [hmem])]
    rfl

/-- Inserting entries that continue a bag in ascending order appends them. -/
theorem entries_foldl_insert (b : Bag) (entries : List (String × Option String))
    (h : Ascending (b.entries ++ entries)) :
    (entries.foldl (fun b entry => b.insert entry.1 entry.2) b).entries =
      b.entries ++ entries := by
  induction entries generalizing b with
  | nil => simp
  | cons first rest ih =>
    have hlt : ∀ entry ∈ b.entries, entry.1 < first.1 := fun entry hmem =>
      (List.pairwise_append.1 h).2.2 entry hmem first (by simp)
    have hinsert : (b.insert first.1 first.2).entries = b.entries ++ [first] :=
      insertEntry_of_forall_lt hlt
    rw [List.foldl_cons, ih (b.insert first.1 first.2) (by rw [hinsert]; simpa using h), hinsert]
    simp

/-- A bag is rebuilt by inserting its entries in their order. -/
theorem foldl_insert_entries (b : Bag) :
    b.entries.foldl (fun b entry => b.insert entry.1 entry.2) empty = b :=
  ext (entries_foldl_insert empty b.entries b.ascending)

/-- When the entries of a bag are inserted into another one, what stands in the first
counts. -/
theorem get?_foldl_insert_entries (b other : Bag) (key : String) :
    (b.entries.foldl (fun b entry => b.insert entry.1 entry.2) other).get? key =
      (b.get? key).or (other.get? key) := by
  have hown : b.entries.reverse.lookup key = b.get? key := by
    rw [← get?_ofList, ofList, foldl_insert_entries]
  rw [get?_foldl_insert, hown]

end Bag

end Parley
