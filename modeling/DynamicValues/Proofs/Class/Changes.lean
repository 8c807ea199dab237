import DynamicValues.Proofs.Class.Walk
import DynamicValues.Proofs.World.Final

/-!
# Runs of changes to the classes

`ClassChange` lists the operations that change the symbol table, and `ClassChange.run` makes one
after the other, going on after a call that fails. What such a run can do to the graph of parents is
said once, in `isa_apply`: nothing, or what one accepted call of `setIsa` says.
-/

set_option autoImplicit false

namespace DynamicValues

namespace SymbolTable

/-! ## The parents after one operation -/

/-- A class in the table. -/
def Known (table : SymbolTable) (id : StashId) : Prop := (table.get? id).isSome

theorem isa_setStash {table : SymbolTable} {id : StashId} {old : Stash}
    (h : table.get? id = some old) (stash : Stash) (other : StashId) :
    (table.setStash id stash).isa other = if other = id then stash.isa else table.isa other := by
  obtain ⟨hlt, -⟩ := Array.getElem?_eq_some_iff.1 h
  by_cases hother : other = id
  · subst hother
    simp [setStash, isa, get?, hlt]
  · have hindex : id.index ≠ other.index := fun e => hother (StashId.index_inj.1 e).symm
    simp [setStash, isa, get?, hindex, hother]

@[simp] theorem isa_addStash (table : SymbolTable) (name : String) (id other : StashId) :
    (table.addStash name id).isa other = table.isa other := by
  -- The new class has no parents, and neither had its number before.
  simp only [addStash, isa, get?, Array.getElem?_push]
  by_cases hother : other.index = table.stashes.size
  · simp [hother]
  · simp [hother]

@[simp] theorem isa_defineMethod (table : SymbolTable) (id : StashId) (name : String) (code : Value)
    (other : StashId) : (table.defineMethod id name code).2.isa other = table.isa other := by
  unfold defineMethod
  cases hstash : table.get? id with
  | none => rfl
  | some stash =>
    simp only [isa_setStash hstash]
    split
    · next h => subst h; simp [isa, hstash]
    · rfl

@[simp] theorem isa_removeMethod (table : SymbolTable) (id : StashId) (name : String)
    (other : StashId) : (table.removeMethod id name).2.isa other = table.isa other := by
  unfold removeMethod
  cases hstash : table.get? id with
  | none => rfl
  | some stash =>
    cases hmethod : stash.methods.get? name with
    | none => simp [hmethod]
    | some code =>
      simp only [hmethod, isa_setStash hstash]
      split
      · next h => subst h; simp [isa, hstash]
      · rfl

@[simp] theorem maxDepth_defineMethod (table : SymbolTable) (id : StashId) (name : String)
    (code : Value) : (table.defineMethod id name code).2.maxDepth = table.maxDepth := by
  unfold defineMethod
  split <;> rfl

@[simp] theorem maxDepth_removeMethod (table : SymbolTable) (id : StashId) (name : String) :
    (table.removeMethod id name).2.maxDepth = table.maxDepth := by
  unfold removeMethod
  split
  · rfl
  · split <;> rfl

/-! ## Making a class -/

/-- A call for a class answers the one with the name, or a new one with the next number. -/
theorem intern_eq_ok_iff {table table' : SymbolTable} {name : String} {id : StashId} :
    table.intern name = .ok (id, table') ↔
      (table.lookup name = some id ∧ table' = table) ∨
      (table.lookup name = none ∧ id.index = table.size ∧ table' = table.addStash name id) := by
  unfold intern
  cases table.lookup name with
  | some known => simp [eq_comm]
  | none =>
    cases hnumber : StashId.ofIndex? table.size with
    | some fresh =>
      have hfresh := StashId.ofIndex?_eq_some_iff.1 hnumber
      rw [← hfresh, StashId.index_inj]
      simp only [Except.ok.injEq, Prod.mk.injEq, reduceCtorEq, false_and, true_and, false_or]
      constructor
      · rintro ⟨rfl, rfl⟩
        exact ⟨rfl, rfl⟩
      · rintro ⟨rfl, rfl⟩
        exact ⟨rfl, rfl⟩
    | none =>
      have hfull := StashId.ofIndex?_eq_none_iff.1 hnumber
      have hlt := id.index_lt
      simp only [reduceCtorEq, false_and, true_and, false_or, false_iff]
      rintro ⟨hid, -⟩
      omega

/-- It is refused exactly if the name is new and there is no number left. -/
theorem intern_eq_error_iff {table : SymbolTable} {name : String} {e : ValueError} :
    table.intern name = .error e ↔
      table.lookup name = none ∧ UInt32.size ≤ table.size ∧ e = .stashIdsExhausted := by
  unfold intern
  cases table.lookup name with
  | some known => simp
  | none =>
    rw [← StashId.ofIndex?_eq_none_iff]
    cases StashId.ofIndex? table.size <;> simp [eq_comm]

/-! ## Accepted parents -/

/-- `setIsa` makes these the parents of the class. -/
def Accepts (table : SymbolTable) (id : StashId) (parents : List StashId) : Prop :=
  ∃ table', table.setIsa id parents = .ok table'

/-- A list is accepted if it names classes of the table only and the walk from none of them comes
to the class. -/
theorem setIsa_eq_ok_iff {table table' : SymbolTable} {id : StashId} {parents : List StashId} :
    table.setIsa id parents = .ok table' ↔
      (∀ c ∈ id :: parents, table.Known c) ∧ (∀ parent ∈ parents, id ∉ table.linearIsa parent) ∧
        ∃ stash, table.get? id = some stash ∧
          table' = table.setStash id { stash with isa := parents } := by
  unfold setIsa
  split
  · next unknown hfind =>
    obtain ⟨hmem, hnone⟩ := And.intro (List.mem_of_find?_eq_some hfind) (List.find?_some hfind)
    simp only [reduceCtorEq, false_iff]
    rintro ⟨hknown, -⟩
    have hsome := hknown unknown hmem
    simp only [Known, Option.isSome_iff_ne_none] at hsome
    exact hsome (by simpa using hnone)
  · next hfind =>
    have hknown : ∀ c ∈ id :: parents, table.Known c := by
      intro c hc
      have := List.find?_eq_none.1 hfind c hc
      simpa [Known, Option.isSome_iff_ne_none] using this
    split
    · next hany =>
      simp only [reduceCtorEq, false_iff]
      rintro ⟨-, hfree, -⟩
      obtain ⟨parent, hparent, hwalk⟩ := List.any_eq_true.1 hany
      refine hfree parent hparent ?_
      rcases Bool.or_eq_true _ _ ▸ hwalk with heq | hmem
      · exact eq_of_beq heq ▸ mem_linearIsa_self parent
      · simpa using hmem
    · next hany =>
      have hfree : ∀ parent ∈ parents, id ∉ table.linearIsa parent := by
        intro parent hparent hmem
        exact hany (List.any_eq_true.2 ⟨parent, hparent, by simp [hmem]⟩)
      obtain ⟨stash, hstash⟩ := Option.isSome_iff_exists.1 (hknown id List.mem_cons_self)
      simp only [hstash, Except.ok.injEq, Option.some.injEq, exists_eq_left', eq_comm]
      exact ⟨fun h => ⟨hknown, hfree, h⟩, fun h => h.2.2⟩

/-- Among classes of the table, a list that is not accepted is refused as recursive. -/
theorem setIsa_eq_recursive_iff {table : SymbolTable} {id : StashId} {parents : List StashId}
    (known : ∀ c ∈ id :: parents, table.Known c) :
    table.setIsa id parents = .error (.recursiveInheritance (table.name id)) ↔
      ¬ table.Accepts id parents := by
  constructor
  · rintro herror ⟨table', hok⟩
    rw [herror] at hok
    exact absurd hok (by simp)
  · intro hrefused
    unfold setIsa
    split
    · next unknown hfind =>
      have hsome := known unknown (List.mem_of_find?_eq_some hfind)
      have hnone := List.find?_some hfind
      simp_all [Known]
    · next hfind =>
      split
      · rfl
      · next hany =>
        obtain ⟨stash, hstash⟩ := Option.isSome_iff_exists.1 (known id List.mem_cons_self)
        refine absurd ⟨table.setStash id { stash with isa := parents }, ?_⟩ hrefused
        refine setIsa_eq_ok_iff.2 ⟨known, fun parent hparent hmem => ?_, stash, hstash, rfl⟩
        exact hany (List.any_eq_true.2 ⟨parent, hparent, by simp [hmem]⟩)

theorem isa_of_setIsa {table table' : SymbolTable} {id : StashId} {parents : List StashId}
    (h : table.setIsa id parents = .ok table') (other : StashId) :
    table'.isa other = if other = id then parents else table.isa other := by
  obtain ⟨-, -, stash, hstash, rfl⟩ := setIsa_eq_ok_iff.1 h
  exact isa_setStash hstash _ other

theorem maxDepth_of_setIsa {table table' : SymbolTable} {id : StashId} {parents : List StashId}
    (h : table.setIsa id parents = .ok table') : table'.maxDepth = table.maxDepth := by
  obtain ⟨-, -, stash, -, rfl⟩ := setIsa_eq_ok_iff.1 h
  rfl

end SymbolTable

/-! ## Runs -/

/-- An operation that changes the classes. -/
inductive ClassChange where
  | intern (name : String)
  | defineMethod (id : StashId) (name : String) (code : Value)
  | defineNative (id : StashId) (name : String) (native : Native)
  | removeMethod (id : StashId) (name : String)
  | setIsa (id : StashId) (parents : List StashId)

namespace ClassChange

/-- The world after an operation, whether it succeeded or not. -/
def apply (world : World) : ClassChange → World
  | intern name => (Action.intern name).final world
  | defineMethod id name code => (Action.onClasses (·.defineMethod id name code)).final world
  | defineNative id name native => (Action.defineNative id name native).final world
  | removeMethod id name => (Action.onClasses (·.removeMethod id name)).final world
  | setIsa id parents => (Action.setIsa id parents).final world

/-- The world after a row of operations. -/
def run (changes : List ClassChange) (world : World) : World := changes.foldl apply world

@[simp] theorem run_nil (world : World) : run [] world = world := rfl

@[simp] theorem run_cons (change : ClassChange) (changes : List ClassChange) (world : World) :
    run (change :: changes) world = run changes (change.apply world) := rfl

theorem run_append (before after : List ClassChange) (world : World) :
    run (before ++ after) world = run after (run before world) := List.foldl_append

/-- What every operation keeps, a run keeps. -/
theorem run_keeps (keep : World → Prop)
    (kept : ∀ {world : World}, keep world → ∀ change : ClassChange, keep (change.apply world))
    (changes : List ClassChange) {world : World} (h : keep world) : keep (run changes world) := by
  induction changes generalizing world with
  | nil => exact h
  | cons change changes ih =>
    rw [run_cons]
    exact ih (kept h change)

/-- The world at a later moment of a run comes from the one at an earlier moment. -/
theorem run_take (changes : List ClassChange) (world : World) {m n : Nat} (hmn : m ≤ n) :
    run (changes.take n) world =
      run ((changes.drop m).take (n - m)) (run (changes.take m) world) := by
  rw [← run_append, ← List.take_add, Nat.add_sub_cancel' hmn]

/-- **What a call for a class can do**: add the class under the next number, if its name is new and a
number is left, and nothing otherwise. -/
theorem intern_apply (name : String) (world : World) :
    (intern name).apply world = world ∨
      ∃ id : StashId, world.classes.lookup name = none ∧ id.index = world.classes.size ∧
        (intern name).apply world = { world with classes := world.classes.addStash name id } := by
  rw [apply, Action.final_intern]
  cases hintern : world.classes.intern name with
  | error e => exact .inl rfl
  | ok made =>
    obtain ⟨id, classes⟩ := made
    rcases SymbolTable.intern_eq_ok_iff.1 hintern with ⟨-, rfl⟩ | ⟨hnew, hid, rfl⟩
    · exact .inl rfl
    · exact .inr ⟨id, hnew, hid, rfl⟩

/-- **What an operation can do to the graph of parents**: replace the parents of one class, if it is
an accepted `setIsa`, and nothing otherwise. -/
theorem isa_apply (change : ClassChange) (world : World) :
    (∃ id parents, change = .setIsa id parents ∧
      world.classes.setIsa id parents = .ok (change.apply world).classes) ∨
    ((∀ id parents, change = .setIsa id parents → ¬ world.classes.Accepts id parents) ∧
      (change.apply world).classes.isa = world.classes.isa) := by
  cases change with
  | intern name =>
    refine .inr ⟨by simp, ?_⟩
    rcases intern_apply name world with hsame | ⟨id, -, -, hadded⟩
    · rw [hsame]
    · funext other
      rw [hadded, SymbolTable.isa_addStash]
  | defineMethod id name code => exact .inr ⟨by simp, by funext id; simp [apply]⟩
  | defineNative id name native =>
    obtain ⟨code, hcode⟩ := Action.final_defineNative id name native world
    refine .inr ⟨by simp, ?_⟩
    funext id
    rw [apply, hcode, SymbolTable.isa_defineMethod]
  | removeMethod id name => exact .inr ⟨by simp, by funext id; simp [apply]⟩
  | setIsa id parents =>
    simp only [apply, Action.final_setIsa]
    cases hset : world.classes.setIsa id parents with
    | ok classes => exact .inl ⟨id, parents, rfl, hset⟩
    | error e =>
      refine .inr ⟨fun id' parents' heq => ?_, rfl⟩
      obtain ⟨rfl, rfl⟩ := ClassChange.setIsa.inj heq
      rintro ⟨classes, hok⟩
      rw [hset] at hok
      exact absurd hok (by simp)

theorem scopes_apply (change : ClassChange) (world : World) :
    (change.apply world).scopes = world.scopes := by
  cases change with
  | intern name =>
    rcases intern_apply name world with hsame | ⟨id, -, -, hadded⟩
    · rw [hsame]
    · rw [hadded]
  | setIsa id parents =>
    simp only [apply, Action.final_setIsa]
    cases world.classes.setIsa id parents <;> rfl
  | _ => rfl

/-- Of the heap an operation on classes changes nothing; at most a subroutine is made. -/
theorem heap_apply (change : ClassChange) (world : World) :
    (change.apply world).heap = world.heap ∨
      ∃ name native, (change.apply world).heap = (world.heap.newCode name native).2 := by
  cases change with
  | intern name =>
    rcases intern_apply name world with hsame | ⟨id, -, -, hadded⟩
    · exact .inl (by rw [hsame])
    · exact .inl (by rw [hadded])
  | defineNative id name native => exact .inr ⟨_, some native, rfl⟩
  | setIsa id parents =>
    simp only [apply, Action.final_setIsa]
    cases world.classes.setIsa id parents <;> exact .inl rfl
  | _ => exact .inl rfl

@[simp] theorem maxDepth_apply (change : ClassChange) (world : World) :
    (change.apply world).classes.maxDepth = world.classes.maxDepth := by
  cases change with
  | intern name =>
    rcases intern_apply name world with hsame | ⟨id, -, -, hadded⟩
    · rw [hsame]
    · rw [hadded]
      rfl
  | defineMethod id name code => simp [apply]
  | defineNative id name native =>
    obtain ⟨code, hcode⟩ := Action.final_defineNative id name native world
    rw [apply, hcode, SymbolTable.maxDepth_defineMethod]
  | removeMethod id name => simp [apply]
  | setIsa id parents =>
    simp only [apply, Action.final_setIsa]
    cases hset : world.classes.setIsa id parents with
    | ok classes => exact SymbolTable.maxDepth_of_setIsa hset
    | error e => rfl

@[simp] theorem maxDepth_run (changes : List ClassChange) (world : World) :
    (run changes world).classes.maxDepth = world.classes.maxDepth :=
  run_keeps (fun later => later.classes.maxDepth = world.classes.maxDepth)
    (fun h change => (maxDepth_apply change _).trans h) changes rfl

end ClassChange

end DynamicValues
