/-
# Looking up in lists of pairs

Tables are lists of keys with values, and the first entry of a key counts.  Taking a key
out takes out all its entries, so afterwards the key is not found and every other key is
found as before.
-/

namespace Parley

variable {κ β : Type} [DecidableEq κ]

/-- The first entry of a list counts for its key, the others for all other keys. -/
theorem lookup_cons_eq_ite (key k : κ) (value : β) (rest : List (κ × β)) :
    ((k, value) :: rest).lookup key = if key = k then some value else rest.lookup key := by
  by_cases h : key = k
  · simp [h]
  · have hbeq : (key == k) = false := by simpa using h
    rw [List.lookup_cons, hbeq, if_neg h]

/-- A key that was taken out is not found, and taking it out concerns no other key. -/
theorem lookup_filter_ne (key other : κ) (entries : List (κ × β)) :
    (entries.filter fun entry => entry.1 != key).lookup other =
      if other = key then none else entries.lookup other := by
  induction entries with
  | nil => simp
  | cons first rest ih =>
    obtain ⟨k, v⟩ := first
    by_cases hk : k = key
    · subst hk
      by_cases ho : other = k
      · simpa [ho] using ih
      · simpa [ho, lookup_cons_eq_ite] using ih
    · by_cases ho : other = k
      · subst ho
        simp [hk]
      · simpa [hk, ho, lookup_cons_eq_ite] using ih

/-- Of the keys that are kept each is found as before, and the others are not. -/
theorem lookup_filter_key (keep : κ → Bool) (key : κ) (entries : List (κ × β)) :
    (entries.filter fun entry => keep entry.1).lookup key =
      if keep key then entries.lookup key else none := by
  induction entries with
  | nil => simp
  | cons first rest ih =>
    obtain ⟨k, v⟩ := first
    by_cases heq : key = k
    · subst heq
      cases hk : keep key <;> simp [hk, ih]
    · cases hk : keep k <;> simp [hk, ih, heq, lookup_cons_eq_ite]

/-- When a key is taken out, the others are still keys. -/
theorem mem_keys_filter_ne {key other : κ} {entries : List (κ × β)} :
    key ∈ (entries.filter fun entry => entry.1 != other).map Prod.fst ↔
      key ∈ entries.map Prod.fst ∧ key ≠ other := by
  constructor
  · intro hmem
    obtain ⟨entry, hentry, rfl⟩ := List.mem_map.1 hmem
    obtain ⟨hold, hne⟩ := List.mem_filter.1 hentry
    exact ⟨List.mem_map_of_mem hold, bne_iff_ne.1 hne⟩
  · rintro ⟨hmem, hne⟩
    obtain ⟨entry, hentry, rfl⟩ := List.mem_map.1 hmem
    exact List.mem_map_of_mem (List.mem_filter.2 ⟨hentry, bne_iff_ne.2 hne⟩)

/-- Taking out a key that is none of the keys changes nothing. -/
theorem filter_ne_of_not_mem {key : κ} {entries : List (κ × β)}
    (h : key ∉ entries.map Prod.fst) :
    (entries.filter fun entry => entry.1 != key) = entries := by
  apply List.filter_eq_self.2
  intro entry hentry
  rw [bne_iff_ne]
  rintro rfl
  exact h (List.mem_map_of_mem hentry)

/-- What is found is an entry. -/
theorem mem_of_lookup {key : κ} {value : β} {entries : List (κ × β)}
    (h : entries.lookup key = some value) : (key, value) ∈ entries := by
  obtain ⟨before, after, rfl, -⟩ := List.lookup_eq_some_iff.1 h
  simp

/-- An entry is found when no two entries have the same key. -/
theorem lookup_of_mem {key : κ} {value : β} {entries : List (κ × β)}
    (hnodup : (entries.map Prod.fst).Nodup) (h : (key, value) ∈ entries) :
    entries.lookup key = some value := by
  induction entries with
  | nil => cases h
  | cons first rest ih =>
    obtain ⟨k, v⟩ := first
    obtain ⟨hfresh, hrest⟩ := List.nodup_cons.1 hnodup
    rw [lookup_cons_eq_ite]
    rcases List.mem_cons.1 h with heq | hmem
    · cases heq
      rw [if_pos rfl]
    · have hne : key ≠ k := by
        rintro rfl
        exact hfresh (List.mem_map.2 ⟨(key, value), hmem, rfl⟩)
      rw [if_neg hne, ih hrest hmem]

/-- A key without an entry is not found. -/
theorem lookup_of_not_mem {key : κ} {entries : List (κ × β)} (h : key ∉ entries.map Prod.fst) :
    entries.lookup key = none := by
  cases hfound : entries.lookup key with
  | none => rfl
  | some value => exact absurd (List.mem_map_of_mem (mem_of_lookup hfound)) h

/-- A key that is not found has no entry. -/
theorem not_mem_of_lookup {key : κ} {entries : List (κ × β)} (h : entries.lookup key = none) :
    key ∉ entries.map Prod.fst := by
  intro hmem
  obtain ⟨entry, hentry, rfl⟩ := List.mem_map.1 hmem
  have hne := List.lookup_eq_none_iff.1 h entry hentry
  simp at hne

/-- The keys stay different when one is added that is not found. -/
theorem nodup_append_of_lookup {key : κ} {entries : List (κ × β)} (value : β)
    (hnodup : (entries.map Prod.fst).Nodup) (hfree : entries.lookup key = none) :
    ((entries ++ [(key, value)]).map Prod.fst).Nodup := by
  rw [List.map_append, List.map_singleton]
  apply List.nodup_append.2
  constructor
  · exact hnodup
  constructor
  · exact List.pairwise_singleton _ key
  · intro other hother last hlast heq
    obtain rfl := List.mem_singleton.1 hlast
    exact not_mem_of_lookup hfree (heq ▸ hother)

/-- Among entries that are made of the items of a list, the first item with the key
counts. -/
theorem lookup_map_eq_find? {α : Type} (keyOf : α → κ) (valueOf : α → β) (key : κ)
    (items : List α) :
    (items.map fun item => (keyOf item, valueOf item)).lookup key =
      (items.find? fun item => keyOf item == key).map valueOf := by
  induction items with
  | nil => rfl
  | cons first rest ih =>
    rw [List.map_cons, lookup_cons_eq_ite, ih, List.find?_cons]
    by_cases h : key = keyOf first
    · simp [h]
    · have hother : (keyOf first == key) = false := beq_eq_false_iff_ne.2 (Ne.symm h)
      rw [if_neg h, hother]

end Parley
