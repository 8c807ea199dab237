import DynamicValues.Proofs.Class.Changes

/-!
# The generation as a cache key

Whoever keeps an answer of the symbol table keeps the generation with it, and asks again when the
generation is another one. This is sound if the same generation means the same answers, at any two
moments of the table's life, and whatever calls came between them, those that were refused included.

An operation either leaves the table as it is, to the last field, or adds one to the generation
(`ClassChange.counts`). So along a run the generation never falls, and two moments with one
generation have no change between them (`run_counts`). The generation is kept in a word of 64 bits,
which holds it as long as a table has not seen `2 ^ 64` calls: it counts at most one for each
(`counter_identifies_answers`).
-/

set_option autoImplicit false

namespace DynamicValues

namespace SymbolTable

/-- The generation in the word that it is kept in. -/
def counter (table : SymbolTable) : UInt64 := .ofNat table.generation

/-- Two tables that cannot be told apart by a question. -/
structure SameAnswers (table table' : SymbolTable) : Prop where
  lookup : ∀ name, table'.lookup name = table.lookup name
  name : ∀ id, table'.name id = table.name id
  method : ∀ id name, table'.method id name = table.method id name
  isa : ∀ id, table'.isa id = table.isa id
  linearIsa : ∀ id, table'.linearIsa id = table.linearIsa id
  isSubclass : ∀ id ancestor, table'.isSubclass id ancestor = table.isSubclass id ancestor
  findMethod : ∀ id name, table'.findMethod id name = table.findMethod id name

theorem SameAnswers.of_eq {table table' : SymbolTable} (h : table' = table) :
    table.SameAnswers table' := by
  subst h
  exact ⟨fun _ => rfl, fun _ => rfl, fun _ _ => rfl, fun _ => rfl, fun _ => rfl, fun _ _ => rfl,
    fun _ _ => rfl⟩

/-! ## One operation -/

/-- The later table is the earlier one, or the change was counted. -/
def Counts (table table' : SymbolTable) : Prop :=
  table' = table ∨ table'.generation = table.generation + 1

theorem counts_setStash (table : SymbolTable) (id : StashId) (stash : Stash) :
    table.Counts (table.setStash id stash) := .inr rfl

theorem counts_addStash (table : SymbolTable) (name : String) (id : StashId) :
    table.Counts (table.addStash name id) := .inr rfl

theorem counts_defineMethod (table : SymbolTable) (id : StashId) (name : String) (code : Value) :
    table.Counts (table.defineMethod id name code).2 := by
  unfold defineMethod
  split
  · exact .inl rfl
  · exact table.counts_setStash id _

theorem counts_removeMethod (table : SymbolTable) (id : StashId) (name : String) :
    table.Counts (table.removeMethod id name).2 := by
  unfold removeMethod
  split
  · exact .inl rfl
  · split
    · exact .inl rfl
    · exact table.counts_setStash id _

theorem counts_of_setIsa {table table' : SymbolTable} {id : StashId} {parents : List StashId}
    (h : table.setIsa id parents = .ok table') : table.Counts table' := by
  obtain ⟨-, -, stash, -, rfl⟩ := setIsa_eq_ok_iff.1 h
  exact table.counts_setStash id _

end SymbolTable

namespace ClassChange

open SymbolTable

/-- **An operation that changes the table is counted**, and one that is refused or finds nothing to
do leaves the table as it was. -/
theorem counts (change : ClassChange) (world : World) :
    world.classes.Counts (change.apply world).classes := by
  cases change with
  | intern name =>
    rcases intern_apply name world with hsame | ⟨id, -, -, hadded⟩
    · exact .inl (by rw [hsame])
    · rw [hadded]
      exact world.classes.counts_addStash name id
  | defineMethod id name code => exact world.classes.counts_defineMethod id name code
  | defineNative id name native =>
    obtain ⟨code, hcode⟩ := Action.final_defineNative id name native world
    rw [apply, hcode]
    exact world.classes.counts_defineMethod id name code
  | removeMethod id name => exact world.classes.counts_removeMethod id name
  | setIsa id parents =>
    simp only [apply, Action.final_setIsa]
    cases hset : world.classes.setIsa id parents with
    | ok classes => exact counts_of_setIsa hset
    | error e => exact .inl rfl

/-! ## Runs -/

/-- After a run the table is the same or of a later generation, which is later by no more than the
run has calls. -/
theorem run_counts (changes : List ClassChange) (world : World) :
    let after := (run changes world).classes
    (after = world.classes ∨ world.classes.generation < after.generation) ∧
      after.generation ≤ world.classes.generation + changes.length := by
  induction changes generalizing world with
  | nil => exact ⟨.inl rfl, Nat.le_refl _⟩
  | cons change changes ih =>
    obtain ⟨hlater, hbound⟩ := ih (change.apply world)
    rw [run_cons, List.length_cons]
    rcases change.counts world with hsame | hcounted
    · rw [hsame] at hlater hbound
      exact ⟨hlater, by omega⟩
    · refine ⟨.inr ?_, by omega⟩
      -- The first call was counted, and the generation has not fallen since.
      rcases hlater with hsame | hlt
      · rw [hsame]
        omega
      · omega

/-- Two moments of a run: the later one has the same table or a later generation. -/
theorem run_take_counts (changes : List ClassChange) (world : World) {m n : Nat} (hmn : m ≤ n) :
    let table (k : Nat) : SymbolTable := (run (changes.take k) world).classes
    table n = table m ∨ (table m).generation < (table n).generation := by
  intro table
  simp only [table, run_take changes world hmn]
  exact (run_counts _ _).1

/-- **The counter identifies the answers.** From an empty table on, over any run of fewer than
`2 ^ 64` calls, the counter never falls, and at any two moments at which it is the same all
questions have the same answers. -/
theorem counter_identifies_answers (maxDepth : Nat) (world : World) (changes : List ClassChange)
    (few : changes.length < UInt64.size) :
    let table (n : Nat) : SymbolTable :=
      (run (changes.take n) { world with classes := .empty maxDepth }).classes
    (∀ m n, m ≤ n → (table m).counter ≤ (table n).counter) ∧
    ∀ m n, (table m).counter = (table n).counter → (table m).SameAnswers (table n) := by
  intro table
  -- The word never overflows, so that it stands for the number itself.
  have hword : ∀ n, (table n).counter.toNat = (table n).generation := by
    intro n
    have hbound : (table n).generation ≤ 0 + (changes.take n).length := (run_counts _ _).2
    have hlength : (changes.take n).length ≤ changes.length := List.length_take_le' _ _
    refine UInt64.toNat_ofNat_of_lt' ?_
    omega
  have hstep : ∀ m n, m ≤ n → table n = table m ∨ (table m).generation < (table n).generation :=
    fun m n hmn => run_take_counts changes _ hmn
  constructor
  · intro m n hmn
    rw [UInt64.le_iff_toNat_le, hword, hword]
    rcases hstep m n hmn with hsame | hlt
    · exact Nat.le_of_eq (congrArg generation hsame.symm)
    · exact Nat.le_of_lt hlt
  · intro m n hcounter
    have hgeneration : (table m).generation = (table n).generation := by
      rw [← hword, ← hword, hcounter]
    refine .of_eq ?_
    rcases Nat.le_total m n with hmn | hnm
    · rcases hstep m n hmn with hsame | hlt
      · exact hsame
      · omega
    · rcases hstep n m hnm with hsame | hlt
      · exact hsame.symm
      · omega

/-- A class with one method, and then calls that come to nothing: a name that is there, a class and
a parent that were never made, a method that is not there, the class as its own parent. -/
def inVain : List ClassChange :=
  [.intern "A", .defineMethod ⟨0⟩ "name" ⟨7⟩, .intern "A", .defineNative ⟨4⟩ "name" ⟨3⟩,
    .removeMethod ⟨0⟩ "other", .setIsa ⟨0⟩ [⟨9⟩], .setIsa ⟨0⟩ [⟨0⟩], .removeMethod ⟨0⟩ "name"]

theorem counter_identifies_answers_inVain :
    let table (n : Nat) : SymbolTable :=
      (run (inVain.take n) { (default : World) with classes := .empty 100 }).classes
    inVain.length < UInt64.size ∧ (table 2).counter = 2 ∧ (table 7).counter = 2 ∧
      (table 8).counter = 3 ∧ (table 2).SameAnswers (table 7) := by
  have few : inVain.length < UInt64.size := by decide
  obtain ⟨-, hsame⟩ := counter_identifies_answers 100 default inVain few
  refine ⟨few, by decide +kernel, by decide +kernel, by decide +kernel, hsame 2 7 ?_⟩
  decide +kernel

end ClassChange

end DynamicValues
