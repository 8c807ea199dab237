import DynamicValues.Proofs.Class.Registry
import Mathlib.Tactic.ByContra

/-!
# Method calls and the test for subclasses

A method call looks into the linear order of a class and then into `UNIVERSAL` and **all that
`UNIVERSAL` inherits from**. The test for subclasses looks into the linear order too, but of
`UNIVERSAL` it only knows the name: every class counts as a `UNIVERSAL`, and none counts as what
`UNIVERSAL` inherits from. So the two agree but for the methods of classes above `UNIVERSAL`
(`ClassChange.dispatch_agrees`).

That a class named `UNIVERSAL` is the one that a call goes on to needs names to be unique, which they
are in every table that operations make (`SymbolTable.Indexed`).
-/

set_option autoImplicit false

namespace DynamicValues

namespace SymbolTable

variable {table : SymbolTable}

/-! ## Names -/

/-- The class named `UNIVERSAL` is the one that calls go on to. -/
theorem Indexed.lookup_universal (indexed : table.Indexed) {id : StashId}
    (hname : table.name id = universalName) : table.lookup universalName = some id := by
  have hknown : table.Known id := by
    by_contra hunknown
    -- Unknown classes have a name of their own.
    rw [Known, Option.not_isSome_iff_eq_none] at hunknown
    rw [name, hunknown] at hname
    exact absurd hname (by decide)
  exact (indexed universalName id).2 ⟨hknown, hname⟩

/-! ## Subclasses -/

theorem isSubclass_iff (table : SymbolTable) (id ancestor : StashId) :
    table.isSubclass id ancestor = true ↔
      table.name ancestor = universalName ∨ ancestor ∈ table.linearIsa id := by
  simp [isSubclass]

theorem isSubclass_of_mem {id ancestor : StashId} (h : ancestor ∈ table.linearIsa id) :
    table.isSubclass id ancestor = true := (table.isSubclass_iff id ancestor).2 (.inr h)

/-! ## The first of a linear order -/

/-- The methods of a class go before those that it inherits. -/
theorem inherited_eq_own {id : StashId} {name : String} {code : Value}
    (h : table.method id name = some code) : table.inherited id name = some code := by
  have hfirst : [id] <+: table.linearIsa id := by
    rw [linearIsa_eq]
    exact prefix_foldl_walk (prefix_walk _) _ _
  obtain ⟨rest, horder⟩ := hfirst
  rw [inherited, ← horder, List.singleton_append, List.findSome?_cons, h]

/-! ## Calls -/

/-- What the linear order finds is a method of one of its classes. -/
theorem exists_mem_of_inherited {id : StashId} {name : String} {code : Value}
    (h : table.inherited id name = some code) :
    ∃ s ∈ table.linearIsa id, table.method s name = some code :=
  List.exists_of_findSome?_eq_some h

theorem isSome_inherited_of_mem {id s : StashId} {name : String} (hs : s ∈ table.linearIsa id)
    (hmethod : (table.method s name).isSome) : (table.inherited id name).isSome :=
  List.findSome?_isSome_iff.2 ⟨s, hs, hmethod⟩

/-- A call on `id` comes to a class above `UNIVERSAL`: nothing is found in the linear order, which
does not have `UNIVERSAL`, nor in `UNIVERSAL` itself, and `UNIVERSAL` inherits from the class. -/
structure AboveUniversal (table : SymbolTable) (id : StashId) (name : String) (s root : StashId) :
    Prop where
  universal : table.lookup universalName = some root
  apart : root ∉ table.linearIsa id
  vain : table.inherited id name = none
  rootless : table.method root name = none
  inherits : table.isSubclass root s = true

/-- A call finds a method of a class that it is a subclass of, or of one above `UNIVERSAL`. -/
theorem Indexed.exists_isSubclass_of_findMethod (indexed : table.Indexed) {id : StashId}
    {name : String} {code : Value} (h : table.findMethod id name = some code) :
    ∃ s, table.method s name = some code ∧
      (table.isSubclass id s = true ∨ ∃ root, table.AboveUniversal id name s root) := by
  rw [findMethod_eq] at h
  cases hvain : table.inherited id name with
  | some found =>
    rw [hvain, Option.some_or] at h
    obtain ⟨s, hs, hmethod⟩ := exists_mem_of_inherited (hvain.trans h)
    exact ⟨s, hmethod, .inl (isSubclass_of_mem hs)⟩
  | none =>
    rw [hvain, Option.none_or, Option.bind_eq_some_iff] at h
    obtain ⟨root, hroot, hfound⟩ := h
    have hapart : root ∉ table.linearIsa id := by
      intro hmem
      rw [if_pos hmem] at hfound
      exact absurd hfound (by simp)
    rw [if_neg hapart] at hfound
    cases hown : table.method root name with
    | some own =>
      -- It is a method of `UNIVERSAL` itself, and every class is one.
      refine ⟨root, hown.trans ((inherited_eq_own hown).symm.trans hfound), .inl ?_⟩
      exact (table.isSubclass_iff id root).2 (.inl ((indexed universalName root).1 hroot).2)
    | none =>
      obtain ⟨s, hs, hmethod⟩ := exists_mem_of_inherited hfound
      exact ⟨s, hmethod, .inr ⟨root, hroot, hapart, hvain, hown, isSubclass_of_mem hs⟩⟩

/-- A call finds a method if a class that it is a subclass of has one. -/
theorem Indexed.isSome_findMethod (indexed : table.Indexed) {id s : StashId} {name : String}
    (hsubclass : table.isSubclass id s = true) (hmethod : (table.method s name).isSome) :
    (table.findMethod id name).isSome := by
  rw [findMethod_eq, Option.isSome_or, Bool.or_eq_true]
  rcases (table.isSubclass_iff id s).1 hsubclass with hname | hmem
  · rw [indexed.lookup_universal hname, Option.bind_some]
    by_cases hmet : s ∈ table.linearIsa id
    · exact .inl (isSome_inherited_of_mem hmet hmethod)
    · rw [if_neg hmet]
      exact .inr (isSome_inherited_of_mem (mem_linearIsa_self s) hmethod)
  · exact .inl (isSome_inherited_of_mem hmem hmethod)

end SymbolTable

namespace ClassChange

open SymbolTable

/-- **Calls and the test for subclasses agree but above `UNIVERSAL`.** In every table made by
operations on classes: a method that a call finds is one of a class that it is a subclass of, or it
is the method of a class that `UNIVERSAL` inherits from, and then neither the linear order of the
class, which is without `UNIVERSAL`, nor `UNIVERSAL` has one. And a call finds a method whenever a
class that it is a subclass of has one. -/
theorem dispatch_agrees (maxDepth : Nat) (world : World) (changes : List ClassChange)
    (id : StashId) (name : String) :
    let table := (run changes { world with classes := .empty maxDepth }).classes
    (∀ code, table.findMethod id name = some code →
      ∃ s, table.method s name = some code ∧
        (table.isSubclass id s = true ∨ ∃ root, table.AboveUniversal id name s root)) ∧
    ∀ s, table.isSubclass id s = true → (table.method s name).isSome →
      (table.findMethod id name).isSome := by
  intro table
  have indexed : table.Indexed := indexed_run changes (indexed_empty maxDepth)
  exact ⟨fun code => indexed.exists_isSubclass_of_findMethod, fun s => indexed.isSome_findMethod⟩

/-- `UNIVERSAL` under `Base`, which has a method, and `A` by itself. -/
def underBase : List ClassChange :=
  [.intern "UNIVERSAL", .intern "Base", .intern "A", .setIsa ⟨0⟩ [⟨1⟩],
    .defineMethod ⟨1⟩ "name" ⟨7⟩]

/-- **A call can find a method of a class that it is no subclass of**: one on `A` finds the method
of `Base`, and `A` is not a `Base`. -/
theorem not_isSubclass_underBase :
    ¬ ∀ (maxDepth : Nat) (world : World) (changes : List ClassChange) (id : StashId) (name : String),
      let table := (run changes { world with classes := .empty maxDepth }).classes
      ∀ code, table.findMethod id name = some code →
        ∃ s, table.method s name = some code ∧ table.isSubclass id s = true := by
  intro hclaim
  obtain ⟨s, hmethod, hsubclass⟩ :=
    hclaim 100 default underBase ⟨2⟩ "name" ⟨7⟩ (by decide +kernel)
  -- A class with the method is one of the three.
  have hlt : s.index < 3 := by
    by_contra hge
    rw [SymbolTable.method, get?, Array.getElem?_eq_none] at hmethod
    · exact absurd hmethod (by simp)
    · exact Nat.le_trans (by decide +kernel) (Nat.le_of_not_lt hge)
  have hnone : ∀ i < 3, ∀ s ∈ StashId.ofIndex? i,
      let table := (run underBase { (default : World) with classes := .empty 100 }).classes
      ¬ (table.method s "name" = some ⟨7⟩ ∧ table.isSubclass ⟨2⟩ s = true) := by
    decide +kernel
  exact hnone s.index hlt s (StashId.ofIndex?_eq_some_iff.2 rfl) ⟨hmethod, hsubclass⟩

end ClassChange

end DynamicValues
