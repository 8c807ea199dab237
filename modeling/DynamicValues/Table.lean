/-!
# Tables with text keys

A `Table` maps texts to values. Its entries stand in ascending order of their keys, each key once,
so a table has one representation and listing it needs no sorting. Keys compare by code points,
which is also the order of their UTF-8 bytes.
-/

set_option autoImplicit false

namespace DynamicValues

variable {α β : Type}

/-- Entries in ascending order of their keys. -/
def Ascending (entries : List (String × α)) : Prop := entries.Pairwise fun a b => a.1 < b.1

/-! ## Operations on entries -/

/-- The value under a key. -/
def lookupEntry (key : String) : List (String × α) → Option α
  | [] => none
  | (k, v) :: rest => if k = key then some v else lookupEntry key rest

/-- The entries with a value put under a key, in the place of an older one. -/
def insertEntry (key : String) (value : α) : List (String × α) → List (String × α)
  | [] => [(key, value)]
  | (k, v) :: rest =>
    if key < k then (key, value) :: (k, v) :: rest
    else if k = key then (key, value) :: rest
    else (k, v) :: insertEntry key value rest

/-- The entries without a key. -/
def eraseEntry (key : String) (entries : List (String × α)) : List (String × α) :=
  entries.filter fun entry => entry.1 != key

theorem fst_mem_insertEntry {key : String} {value : α} {entries : List (String × α)}
    {entry : String × α} (h : entry ∈ insertEntry key value entries) :
    entry.1 = key ∨ entry ∈ entries := by
  induction entries with
  | nil => simp_all [insertEntry]
  | cons head rest ih =>
    obtain ⟨k, v⟩ := head
    simp only [insertEntry] at h
    split at h
    · rcases List.mem_cons.1 h with rfl | h
      · exact .inl rfl
      · exact .inr h
    · split at h
      · rcases List.mem_cons.1 h with rfl | h
        · exact .inl rfl
        · exact .inr (List.mem_cons_of_mem _ h)
      · rcases List.mem_cons.1 h with rfl | h
        · exact .inr List.mem_cons_self
        · exact (ih h).imp id (List.mem_cons_of_mem _)

theorem Ascending.insertEntry {entries : List (String × α)} (h : Ascending entries) (key : String)
    (value : α) : Ascending (insertEntry key value entries) := by
  induction entries with
  | nil => simp [DynamicValues.insertEntry, Ascending]
  | cons head rest ih =>
    obtain ⟨k, v⟩ := head
    obtain ⟨hk, hrest⟩ := List.pairwise_cons.1 h
    simp only [DynamicValues.insertEntry]
    split
    · rename_i hlt
      refine List.pairwise_cons.2 ⟨fun entry hmem => ?_, h⟩
      rcases List.mem_cons.1 hmem with rfl | hmem
      · exact hlt
      · exact String.lt_trans hlt (hk _ hmem)
    · rename_i hlt
      split
      · rename_i heq
        subst heq
        exact List.pairwise_cons.2 ⟨hk, hrest⟩
      · rename_i hne
        have hgt : k < key := by
          rcases Std.Trichotomous.rel_or_eq_or_rel_swap (r := (· < · : String → String → Prop))
              (a := k) (b := key) with h | h | h
          · exact h
          · exact absurd h hne
          · exact absurd h hlt
        refine List.pairwise_cons.2 ⟨fun entry hmem => ?_, ih hrest⟩
        rcases fst_mem_insertEntry hmem with heq | hmem
        · rw [heq]
          exact hgt
        · exact hk _ hmem

theorem Ascending.eraseEntry {entries : List (String × α)} (h : Ascending entries) (key : String) :
    Ascending (eraseEntry key entries) := h.filter _

/-! ## Reading after writing -/

theorem lookupEntry_insertEntry_self (key : String) (value : α) (entries : List (String × α)) :
    lookupEntry key (insertEntry key value entries) = some value := by
  induction entries with
  | nil => simp [insertEntry, lookupEntry]
  | cons head rest ih =>
    obtain ⟨k, v⟩ := head
    simp only [insertEntry]
    split
    · simp [lookupEntry]
    · split
      · simp [lookupEntry]
      · rename_i hne
        simpa only [lookupEntry, if_neg hne] using ih

theorem lookupEntry_insertEntry_ne {key other : String} (value : α) (entries : List (String × α))
    (h : other ≠ key) :
    lookupEntry other (insertEntry key value entries) = lookupEntry other entries := by
  induction entries with
  | nil => simp [insertEntry, lookupEntry, h.symm]
  | cons head rest ih =>
    obtain ⟨k, v⟩ := head
    simp only [insertEntry]
    split
    · simp [lookupEntry, h.symm]
    · split
      · rename_i heq
        subst heq
        simp [lookupEntry, h.symm]
      · simp only [lookupEntry, ih]

theorem lookupEntry_eraseEntry_self (key : String) (entries : List (String × α)) :
    lookupEntry key (eraseEntry key entries) = none := by
  induction entries with
  | nil => rfl
  | cons head rest ih =>
    obtain ⟨k, v⟩ := head
    by_cases h : k = key
    · simpa [eraseEntry, h] using ih
    · simpa [eraseEntry, lookupEntry, h] using ih

theorem lookupEntry_eraseEntry_ne {key other : String} (entries : List (String × α))
    (h : other ≠ key) :
    lookupEntry other (eraseEntry key entries) = lookupEntry other entries := by
  induction entries with
  | nil => rfl
  | cons head rest ih =>
    obtain ⟨k, v⟩ := head
    by_cases hk : k = key
    · subst hk
      simpa [eraseEntry, lookupEntry, h.symm] using ih
    · simp only [eraseEntry] at ih
      simp [eraseEntry, lookupEntry, hk, ih]

/-! ## Tables -/

/-- A map from texts, in ascending order of its keys. -/
structure Table (α : Type) where
  entries : List (String × α)
  ascending : Ascending entries := by exact .nil

namespace Table

def empty : Table α := { entries := [] }

instance : Inhabited (Table α) := ⟨empty⟩

/-- The value under a key. -/
def get? (table : Table α) (key : String) : Option α := lookupEntry key table.entries

/-- Puts a value under a key, in the place of an older one. -/
def insert (table : Table α) (key : String) (value : α) : Table α :=
  ⟨insertEntry key value table.entries, table.ascending.insertEntry key value⟩

/-- Removes a key. -/
def erase (table : Table α) (key : String) : Table α :=
  ⟨eraseEntry key table.entries, table.ascending.eraseEntry key⟩

@[simp] theorem get?_empty (key : String) : (empty : Table α).get? key = none := rfl

@[simp] theorem get?_insert_self (table : Table α) (key : String) (value : α) :
    (table.insert key value).get? key = some value :=
  lookupEntry_insertEntry_self key value table.entries

theorem get?_insert_ne (table : Table α) {key other : String} (value : α) (h : other ≠ key) :
    (table.insert key value).get? other = table.get? other :=
  lookupEntry_insertEntry_ne value table.entries h

@[simp] theorem get?_erase_self (table : Table α) (key : String) :
    (table.erase key).get? key = none :=
  lookupEntry_eraseEntry_self key table.entries

theorem get?_erase_ne (table : Table α) {key other : String} (h : other ≠ key) :
    (table.erase key).get? other = table.get? other :=
  lookupEntry_eraseEntry_ne table.entries h

def contains (table : Table α) (key : String) : Bool := (table.get? key).isSome

def size (table : Table α) : Nat := table.entries.length

def isEmpty (table : Table α) : Bool := table.entries.isEmpty

/-- The keys in ascending order. -/
def keys (table : Table α) : List String := table.entries.map Prod.fst

/-- The values in the order of their keys. -/
def values (table : Table α) : List α := table.entries.map Prod.snd

/-- The table with a function applied to every value. -/
def map (f : α → β) (table : Table α) : Table β where
  entries := table.entries.map fun entry => (entry.1, f entry.2)
  ascending := by simpa [Ascending, List.pairwise_map] using table.ascending

end Table

end DynamicValues
