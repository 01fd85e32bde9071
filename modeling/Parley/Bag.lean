/-
# Property bags

A bag maps property names to optional texts.  A key is absent, present without a
value, or present with a value, and the three stay apart.  The entries are kept in
ascending order of the keys, which for texts is also the order of their UTF-8
bytes, so that two bags with the same contents are the same bag.
-/

namespace Parley

/-- Keys in ascending order, none twice. -/
def Ascending (entries : List (String × Option String)) : Prop :=
  entries.Pairwise fun a b => a.1 < b.1

/-- The properties of a message. -/
structure Bag where
  entries : List (String × Option String)
  ascending : Ascending entries

namespace Bag

/-- Put an entry in its place; an earlier entry of the same key gives way. -/
def insertEntry (key : String) (value : Option String) :
    List (String × Option String) → List (String × Option String)
  | [] => [(key, value)]
  | (k, v) :: rest =>
      if key < k then (key, value) :: (k, v) :: rest
      else if key = k then (key, value) :: rest
      else (k, v) :: insertEntry key value rest

/-- An insertion brings in no key but its own. -/
theorem mem_insertEntry {key : String} {value : Option String} {entry : String × Option String}
    {entries : List (String × Option String)} (h : entry ∈ insertEntry key value entries) :
    entry = (key, value) ∨ entry ∈ entries := by
  induction entries with
  | nil => simpa [insertEntry] using h
  | cons first rest ih =>
    obtain ⟨k, v⟩ := first
    simp only [insertEntry] at h
    split at h
    · simpa using h
    · split at h
      · simp only [List.mem_cons] at h ⊢
        rcases h with h | h
        · exact .inl h
        · exact .inr (.inr h)
      · simp only [List.mem_cons] at h ⊢
        rcases h with h | h
        · exact .inr (.inl h)
        · rcases ih h with h | h
          · exact .inl h
          · exact .inr (.inr h)

/-- An insertion keeps the keys in order. -/
theorem ascending_insertEntry (key : String) (value : Option String)
    {entries : List (String × Option String)} (h : Ascending entries) :
    Ascending (insertEntry key value entries) := by
  induction entries with
  | nil => simp [insertEntry, Ascending]
  | cons first rest ih =>
    obtain ⟨k, v⟩ := first
    have hrest := List.pairwise_cons.1 h
    simp only [insertEntry]
    split
    · rename_i hlt
      refine List.pairwise_cons.2 ⟨fun entry hmem => ?_, h⟩
      rcases List.mem_cons.1 hmem with rfl | hmem
      · exact hlt
      · exact String.lt_trans hlt (hrest.1 entry hmem)
    · split
      · rename_i heq
        refine List.pairwise_cons.2 ⟨fun entry hmem => ?_, hrest.2⟩
        simpa [heq] using hrest.1 entry hmem
      · rename_i hlt hne
        refine List.pairwise_cons.2 ⟨fun entry hmem => ?_, ih hrest.2⟩
        rcases mem_insertEntry hmem with rfl | hmem
        · exact Decidable.byContradiction fun hkey =>
            hne (String.le_antisymm (String.not_lt.1 hkey) (String.not_lt.1 hlt))
        · exact hrest.1 entry hmem

/-- The empty bag. -/
def empty : Bag := ⟨[], List.Pairwise.nil⟩

instance : Inhabited Bag := ⟨empty⟩

/-- Number of keys, those without a value included. -/
def size (b : Bag) : Nat :=
  b.entries.length

/-- The state of a key: absent, without a value, or with one. -/
def get? (b : Bag) (key : String) : Option (Option String) :=
  b.entries.lookup key

/-- Whether a key is present. -/
def contains (b : Bag) (key : String) : Bool :=
  (b.get? key).isSome

/-- Whether a key is present without a value. -/
def isNull (b : Bag) (key : String) : Bool :=
  b.get? key == some none

/-- The value of a key that has one. -/
def text? (b : Bag) (key : String) : Option String :=
  (b.get? key).join

/-- Give a key a state. -/
def insert (b : Bag) (key : String) (value : Option String) : Bag :=
  ⟨insertEntry key value b.entries, ascending_insertEntry key value b.ascending⟩

/-- Make a key absent. -/
def erase (b : Bag) (key : String) : Bag :=
  ⟨b.entries.filter fun entry => entry.1 != key, b.ascending.filter _⟩

/-- The bag that results from inserting entries one after the other. -/
def ofList (entries : List (String × Option String)) : Bag :=
  entries.foldl (fun b entry => b.insert entry.1 entry.2) empty

/-- Two bags are the same when their entries are. -/
theorem ext {a b : Bag} (h : a.entries = b.entries) : a = b := by
  cases a; cases b; cases h; rfl

instance : DecidableEq Bag := fun a b =>
  if h : a.entries = b.entries then isTrue (ext h)
  else isFalse fun e => h (congrArg Bag.entries e)

end Bag

end Parley
