import DynamicValues.Proofs.Class.Locality

/-!
# Names and numbers of classes

A class can be asked for by its number, in the array of classes, and by its name, in the index. No
operation lets the two drift apart: a name looks up a number **exactly if** the class with that number
has the name (`SymbolTable.Indexed`), so names and numbers correspond one to one. Numbers may be handed
in from anywhere; those that get into a list of parents are numbers of classes (`ParentsKnown`).

Nothing is ever taken back either. A later table has all classes of an earlier one under their numbers
and names (`SymbolTable.Extends`), which composes along a run.
-/

set_option autoImplicit false

namespace DynamicValues

namespace SymbolTable

variable {table table' table'' : SymbolTable}

/-! ## The index -/

/-- A name looks up the class that has it. -/
def Indexed (table : SymbolTable) : Prop :=
  ∀ name id, table.lookup name = some id ↔ table.Known id ∧ table.name id = name

theorem known_iff_lt_size (table : SymbolTable) (id : StashId) :
    table.Known id ↔ id.index < table.size := by
  simp [Known, get?, size]

theorem size_eq (table : SymbolTable) : table.size = table.names.size := by
  rw [names, Array.size_map, size]

theorem known_iff (table : SymbolTable) (id : StashId) :
    table.Known id ↔ id.index < table.names.size := by
  rw [known_iff_lt_size, size_eq]

theorem not_known_empty (maxDepth : Nat) (id : StashId) : ¬ (empty maxDepth).Known id := by
  simp [Known, get?, empty]

theorem indexed_empty (maxDepth : Nat) : (empty maxDepth).Indexed := by
  intro name id
  have hnone : (empty maxDepth).lookup name = none := rfl
  simp [hnone, not_known_empty]

theorem SameBut.known_iff {c : StashId} (same : SameBut c table table') (id : StashId) :
    table'.Known id ↔ table.Known id := by
  rw [SymbolTable.known_iff, SymbolTable.known_iff, same.names]

theorem SameBut.indexed {c : StashId} (same : SameBut c table table') (indexed : table.Indexed) :
    table'.Indexed := by
  intro name id
  rw [same.lookup_eq, same.name_eq, same.known_iff]
  exact indexed name id

/-- There is no number left. -/
theorem forall_index_lt_size_iff (table : SymbolTable) :
    (∀ id : StashId, id.index < table.size) ↔ UInt32.size ≤ table.size := by
  constructor
  · intro hall
    cases hnext : StashId.ofIndex? table.size with
    | none => exact StashId.ofIndex?_eq_none_iff.1 hnext
    | some id =>
      -- The next place would have a number, and that is not in use.
      have hlt := hall id
      rw [StashId.ofIndex?_eq_some_iff.1 hnext] at hlt
      exact absurd hlt (Nat.lt_irrefl _)
  · exact fun hfull id => Nat.lt_of_lt_of_le id.index_lt hfull

/-- A name that is in the table is not made again. -/
theorem intern_of_lookup {name : String} {id : StashId} (h : table.lookup name = some id) :
    table.intern name = .ok (id, table) := intern_eq_ok_iff.2 (.inl ⟨h, rfl⟩)

@[simp] theorem names_addStash (table : SymbolTable) (name : String) (id : StashId) :
    (table.addStash name id).names = table.names.push name := by
  simp [addStash, names]

theorem name_addStash_of_known {other : StashId} (h : table.Known other) (name : String)
    (id : StashId) : (table.addStash name id).name other = table.name other := by
  have hlt := (table.known_iff other).1 h
  rw [name_eq, name_eq, names_addStash, Array.getElem?_push_lt hlt, Array.getElem?_eq_getElem hlt]

section Added

variable {name : String} {id : StashId} (hid : id.index = table.size)
include hid

/-- The new class has the next number, and the others have what they had. -/
theorem known_addStash_iff (other : StashId) :
    (table.addStash name id).Known other ↔ table.Known other ∨ other = id := by
  rw [SymbolTable.known_iff, names_addStash, Array.size_push, SymbolTable.known_iff,
    Nat.lt_succ_iff_lt_or_eq, ← StashId.index_inj, hid, size_eq]

theorem name_addStash_new : (table.addStash name id).name id = name := by
  have hnext : id.index = table.names.size := by rw [hid, size_eq]
  rw [name_eq, names_addStash, hnext, Array.getElem?_push_size, Option.getD_some]

theorem Indexed.addStash (indexed : table.Indexed) (hnew : table.lookup name = none) :
    (table.addStash name id).Indexed := by
  intro other c
  rw [lookup_addStash, known_addStash_iff hid]
  by_cases hother : other = name
  · subst hother
    rw [if_pos rfl, Option.some.injEq]
    constructor
    · rintro rfl
      exact ⟨.inr rfl, name_addStash_new hid⟩
    · rintro ⟨hold | rfl, hname⟩
      · -- A class from before has another name, for it would have been looked up.
        rw [name_addStash_of_known hold] at hname
        rw [(indexed other c).2 ⟨hold, hname⟩] at hnew
        exact absurd hnew (by simp)
      · rfl
  · rw [if_neg hother, indexed other c]
    constructor
    · rintro ⟨hold, hname⟩
      exact ⟨.inl hold, (name_addStash_of_known hold name id).trans hname⟩
    · rintro ⟨hold | rfl, hname⟩
      · exact ⟨hold, (name_addStash_of_known hold name id).symm.trans hname⟩
      · exact absurd (hname.symm.trans (name_addStash_new hid)) hother

end Added

/-! ## Nothing is taken back -/

/-- The later table has all classes of the earlier one, under their numbers and names. -/
structure Extends (table table' : SymbolTable) : Prop where
  known : ∀ id, table.Known id → table'.Known id
  name : ∀ id, table.Known id → table'.name id = table.name id
  lookup : ∀ name id, table.lookup name = some id → table'.lookup name = some id

namespace Extends

theorem refl (table : SymbolTable) : table.Extends table :=
  ⟨fun _ h => h, fun _ _ => rfl, fun _ _ h => h⟩

theorem trans (first : table.Extends table') (second : table'.Extends table'') :
    table.Extends table'' where
  known := fun id h => second.known id (first.known id h)
  name := fun id h => (second.name id (first.known id h)).trans (first.name id h)
  lookup := fun name id h => second.lookup name id (first.lookup name id h)

theorem of_sameBut {c : StashId} (same : SameBut c table table') : table.Extends table' where
  known := fun id h => (same.known_iff id).2 h
  name := fun id _ => same.name_eq id
  lookup := fun name _ h => (same.lookup_eq name).trans h

theorem addStash {name : String} {id : StashId} (hnew : table.lookup name = none)
    (hid : id.index = table.size) : table.Extends (table.addStash name id) where
  known := fun other h => (known_addStash_iff hid other).2 (.inl h)
  name := fun other h => name_addStash_of_known h name id
  lookup := by
    intro other c h
    have hother : other ≠ name := by
      rintro rfl
      rw [hnew] at h
      cases h
    rw [lookup_addStash, if_neg hother, h]

end Extends

/-! ## Parents -/

/-- The parents of a class are classes of the table. -/
def ParentsKnown (table : SymbolTable) : Prop := ∀ id, ∀ parent ∈ table.isa id, table.Known parent

theorem parentsKnown_empty (maxDepth : Nat) : (empty maxDepth).ParentsKnown :=
  fun _ _ h => absurd h List.not_mem_nil

end SymbolTable

namespace ClassChange

open SymbolTable

/-! ## One operation -/

/-- No operation gives two classes one name or takes a name out of the index. -/
theorem indexed_apply {world : World} (indexed : world.classes.Indexed) (change : ClassChange) :
    (change.apply world).classes.Indexed := by
  cases hsubject : change.subject? with
  | some c => exact (sameBut_apply hsubject world).indexed indexed
  | none =>
    cases change with
    | intern name =>
      rcases intern_apply name world with hsame | ⟨id, hnew, hid, hadded⟩
      · rwa [hsame]
      · rw [hadded]
        exact indexed.addStash hid hnew
    | _ => exact absurd hsubject (by simp [subject?])

theorem extends_apply (change : ClassChange) (world : World) :
    world.classes.Extends (change.apply world).classes := by
  cases hsubject : change.subject? with
  | some c => exact .of_sameBut (sameBut_apply hsubject world)
  | none =>
    cases change with
    | intern name =>
      rcases intern_apply name world with hsame | ⟨id, hnew, hid, hadded⟩
      · rw [hsame]
        exact .refl world.classes
      · rw [hadded]
        exact .addStash hnew hid
    | _ => exact absurd hsubject (by simp [subject?])

/-- Every class has a number: there are never more classes than numbers. -/
theorem size_le_apply {world : World} (h : world.classes.size ≤ UInt32.size)
    (change : ClassChange) : (change.apply world).classes.size ≤ UInt32.size := by
  cases hsubject : change.subject? with
  | some c => rwa [size_eq, (sameBut_apply hsubject world).names, ← size_eq]
  | none =>
    cases change with
    | intern name =>
      rcases intern_apply name world with hsame | ⟨id, -, hid, hadded⟩
      · rwa [hsame]
      · -- The number that the new class got is a number.
        rw [hadded, size_eq, names_addStash, Array.size_push, ← size_eq, ← hid]
        exact id.index_lt
    | _ => exact absurd hsubject (by simp [subject?])

/-- Parents are checked before they are taken, and classes stay. -/
theorem parentsKnown_apply {world : World} (known : world.classes.ParentsKnown)
    (change : ClassChange) : (change.apply world).classes.ParentsKnown := by
  intro id parent hparent
  refine (extends_apply change world).known parent ?_
  rcases isa_apply change world with ⟨c, parents, -, haccepted⟩ | ⟨-, hsame⟩
  · obtain ⟨hlisted, -⟩ := setIsa_eq_ok_iff.1 haccepted
    rw [isa_of_setIsa haccepted] at hparent
    split at hparent
    · exact hlisted parent (List.mem_cons_of_mem c hparent)
    · exact known id parent hparent
  · rw [hsame] at hparent
    exact known id parent hparent

/-! ## Runs -/

theorem indexed_run (changes : List ClassChange) {world : World}
    (indexed : world.classes.Indexed) : (run changes world).classes.Indexed :=
  run_keeps (·.classes.Indexed) indexed_apply changes indexed

theorem size_le_run (changes : List ClassChange) {world : World}
    (h : world.classes.size ≤ UInt32.size) : (run changes world).classes.size ≤ UInt32.size :=
  run_keeps (·.classes.size ≤ UInt32.size) size_le_apply changes h

theorem parentsKnown_run (changes : List ClassChange) {world : World}
    (known : world.classes.ParentsKnown) : (run changes world).classes.ParentsKnown :=
  run_keeps (·.classes.ParentsKnown) parentsKnown_apply changes known

theorem extends_run (changes : List ClassChange) (world : World) :
    world.classes.Extends (run changes world).classes :=
  run_keeps (fun later => world.classes.Extends later.classes)
    (fun extended change => extended.trans (extends_apply change _)) changes (.refl world.classes)

/-- **The registry of classes stays consistent.** At every moment of a run from an empty table on, of
calls with any arguments and refused ones among them: a name looks up a number exactly if the number
is in use and belongs to the class of that name, there are no more classes than numbers, all parents
are in use, and making a class whose name is there changes nothing. A new class is refused exactly
when all numbers are in use, and that changes nothing either. From any moment to a later one, numbers
in use stay in use and keep their names, and names that were found lead to the same numbers. -/
theorem registry_consistent (maxDepth : Nat) (world : World) (changes : List ClassChange) :
    let moment (n : Nat) : World := run (changes.take n) { world with classes := .empty maxDepth }
    let table (n : Nat) : SymbolTable := (moment n).classes
    (∀ n name id, (table n).lookup name = some id ↔
      id.index < (table n).size ∧ (table n).name id = name) ∧
    (∀ n, (table n).size ≤ UInt32.size) ∧
    (∀ n id, ∀ parent ∈ (table n).isa id, parent.index < (table n).size) ∧
    (∀ n name id, (table n).lookup name = some id →
      (table n).intern name = .ok (id, table n) ∧ (intern name).apply (moment n) = moment n) ∧
    (∀ n name e, ((table n).intern name = .error e ↔ (table n).lookup name = none ∧
        (∀ id : StashId, id.index < (table n).size) ∧ e = .stashIdsExhausted) ∧
      ((table n).intern name = .error e → (intern name).apply (moment n) = moment n)) ∧
    ∀ m n, m ≤ n →
      (∀ id : StashId, id.index < (table m).size →
        id.index < (table n).size ∧ (table n).name id = (table m).name id) ∧
      ∀ name id, (table m).lookup name = some id → (table n).lookup name = some id := by
  intro moment table
  refine ⟨fun n name id => ?_, fun n => size_le_run (changes.take n) (Nat.zero_le _),
    fun n id parent hparent => ?_, fun n name id h => ?_, fun n name e => ⟨?_, fun h => ?_⟩,
    fun m n hmn => ?_⟩
  · rw [← known_iff_lt_size]
    exact indexed_run (changes.take n) (indexed_empty maxDepth) name id
  · rw [← known_iff_lt_size]
    exact parentsKnown_run (changes.take n) (parentsKnown_empty maxDepth) id parent hparent
  · have hsame := intern_of_lookup h
    refine ⟨hsame, ?_⟩
    rw [apply, Action.final_intern, hsame]
  · rw [intern_eq_error_iff, ← forall_index_lt_size_iff]
  · rw [apply, Action.final_intern, h]
  · have hextends : (table m).Extends (table n) := by
      simp only [table, moment, run_take changes _ hmn]
      exact extends_run _ _
    refine ⟨fun id hid => ?_, hextends.lookup⟩
    rw [← known_iff_lt_size] at hid ⊢
    exact ⟨hextends.known id hid, hextends.name id hid⟩

end ClassChange

end DynamicValues
