import DynamicValues.Proofs.Class.Changes

/-!
# A change to a class is seen by its descendants only

A walk reads the parents of the classes it lists and of no others: a class just past the cut-off is
not looked at. So what is changed about a class that is **not on the list** cannot change the list
(`walk_eq_of_notMem`), and the methods of the class do not count either, for they are looked up along
the list. `SymbolTable.SameBut` says what a change to one class leaves alone, and
`SameBut.answers_eq` is the two of them put together, for a class and for `UNIVERSAL` after it.

A class that is made has no methods and no parents, which is just what was found under its number
before. Being `UNIVERSAL` makes no difference: then it is searched after all others, in vain.
-/

set_option autoImplicit false

namespace DynamicValues

namespace SymbolTable

variable {table table' : SymbolTable} {c d : StashId}

/-! ## Walks -/

/-- The walks of a list of parents, if the walk of each is the same where it does not come to `c`. -/
theorem foldl_walk_eq_of_notMem {depth : Nat}
    (step : ∀ seen id, c ∉ table.walk depth seen id →
      table'.walk depth seen id = table.walk depth seen id)
    {parents seen : List StashId} (hoff : c ∉ parents.foldl (table.walk depth) seen) :
    parents.foldl (table'.walk depth) seen = parents.foldl (table.walk depth) seen := by
  induction parents generalizing seen with
  | nil => rfl
  | cons parent parents ih =>
    rw [List.foldl_cons] at hoff
    have hfirst : c ∉ table.walk depth seen parent :=
      fun hmem => hoff (subset_foldl_walk depth parents _ hmem)
    rw [List.foldl_cons, List.foldl_cons, step seen parent hfirst]
    exact ih hoff

/-- **A walk reads the parents of the classes it lists only.** -/
theorem walk_eq_of_notMem (h : ∀ x, x ≠ c → table'.isa x = table.isa x) {depth : Nat}
    {seen : List StashId} {id : StashId} (hoff : c ∉ table.walk depth seen id) :
    table'.walk depth seen id = table.walk depth seen id := by
  induction depth generalizing seen id with
  | zero => rfl
  | succ depth ih =>
    have hid : id ≠ c := fun heq => hoff (heq ▸ mem_walk_self depth seen id)
    rw [walk] at hoff
    rw [walk, walk, h id hid]
    split
    · rfl
    · next fresh =>
      rw [if_neg fresh] at hoff
      exact foldl_walk_eq_of_notMem (fun _ _ => ih) hoff

/-! ## Look-ups -/

/-- The method that the linear order of a class finds. -/
def inherited (table : SymbolTable) (id : StashId) (name : String) : Option Value :=
  (table.linearIsa id).findSome? (table.method · name)

/-- Where the linear order finds nothing, the one of `UNIVERSAL` is searched, unless `UNIVERSAL` was
in the first one. -/
theorem findMethod_eq (table : SymbolTable) (id : StashId) (name : String) :
    table.findMethod id name = (table.inherited id name).or
      ((table.lookup universalName).bind fun root =>
        if root ∈ table.linearIsa id then none else table.inherited root name) := by
  unfold findMethod inherited
  simp only [List.contains_iff_mem]
  cases (table.linearIsa id).findSome? (table.method · name) with
  | some code => rfl
  | none => cases table.lookup universalName <;> rfl

/-- The names of all classes by number. -/
def names (table : SymbolTable) : Array String := table.stashes.map Stash.name

theorem names_getElem? (table : SymbolTable) (id : StashId) :
    table.names[id.index]? = (table.get? id).map Stash.name := by
  rw [names, Array.getElem?_map, get?]

theorem name_eq (table : SymbolTable) (id : StashId) :
    table.name id = table.names[id.index]?.getD unknownName := by
  rw [names_getElem?, name]
  cases table.get? id <;> rfl

/-! ## What is left alone -/

/-- The tables differ in the methods and parents of the class `c` at most. -/
structure SameBut (c : StashId) (table table' : SymbolTable) : Prop where
  maxDepth : table'.maxDepth = table.maxDepth
  names : table'.names = table.names
  byName : table'.byName = table.byName
  isa : ∀ id, id ≠ c → table'.isa id = table.isa id
  method : ∀ id, id ≠ c → ∀ name, table'.method id name = table.method id name

namespace SameBut

theorem refl (c : StashId) (table : SymbolTable) : SameBut c table table :=
  ⟨rfl, rfl, rfl, fun _ _ => rfl, fun _ _ _ => rfl⟩

/-- A class is replaced by one of the same name. -/
theorem setStash {old stash : Stash} (hold : table.get? c = some old)
    (hname : stash.name = old.name) : SameBut c table (table.setStash c stash) where
  maxDepth := rfl
  names := by
    obtain ⟨hlt, hget⟩ := Array.getElem?_eq_some_iff.1 hold
    unfold SymbolTable.names SymbolTable.setStash
    apply Array.ext (by simp)
    intro i hi hi'
    have hin : i < table.stashes.size := by simpa using hi'
    simp only [Array.getElem_map]
    rw [Array.getElem_setIfInBounds hin]
    split
    · next hc =>
      subst hc
      rw [hget, hname]
    · rfl
  byName := rfl
  isa := by
    intro id hid
    rw [isa_setStash hold, if_neg hid]
  method := by
    intro id hid name
    have hindex : c.index ≠ id.index := fun e => hid (StashId.index_inj.1 e).symm
    simp [SymbolTable.method, get?, SymbolTable.setStash, hindex]

theorem defineMethod (table : SymbolTable) (c : StashId) (name : String) (code : Value) :
    SameBut c table (table.defineMethod c name code).2 := by
  unfold SymbolTable.defineMethod
  cases hstash : table.get? c with
  | none => exact refl c table
  | some stash => exact setStash hstash rfl

theorem removeMethod (table : SymbolTable) (c : StashId) (name : String) :
    SameBut c table (table.removeMethod c name).2 := by
  unfold SymbolTable.removeMethod
  cases hstash : table.get? c with
  | none => exact refl c table
  | some stash =>
    cases hmethod : stash.methods.get? name with
    | none => simpa [hmethod] using refl c table
    | some code =>
      simp only [hmethod]
      exact setStash hstash rfl

theorem of_setIsa {parents : List StashId} (h : table.setIsa c parents = .ok table') :
    SameBut c table table' := by
  obtain ⟨-, -, stash, hstash, rfl⟩ := setIsa_eq_ok_iff.1 h
  exact setStash hstash rfl

/-! ## What is seen of it -/

variable (same : SameBut c table table')
include same

theorem lookup_eq (name : String) : table'.lookup name = table.lookup name := by
  rw [lookup, lookup, same.byName]

theorem name_eq (id : StashId) : table'.name id = table.name id := by
  rw [SymbolTable.name_eq, SymbolTable.name_eq, same.names]

theorem linearIsa_eq (hoff : c ∉ table.linearIsa d) : table'.linearIsa d = table.linearIsa d := by
  unfold linearIsa at hoff ⊢
  rw [same.maxDepth]
  exact walk_eq_of_notMem same.isa hoff

/-- Methods are looked up along the linear order. -/
theorem inherited_eq (hoff : c ∉ table.linearIsa d) (name : String) :
    table'.inherited d name = table.inherited d name := by
  unfold inherited
  rw [same.linearIsa_eq hoff]
  have hne : ∀ x ∈ table.linearIsa d, x ≠ c := fun x hx heq => hoff (heq ▸ hx)
  generalize table.linearIsa d = order at hne
  induction order with
  | nil => rfl
  | cons x order ih =>
    rw [List.findSome?_cons, List.findSome?_cons, same.method x (hne x List.mem_cons_self),
      ih fun y hy => hne y (List.mem_cons_of_mem _ hy)]

/-- **A class sees nothing of a change to a class that neither its linear order nor the one of
`UNIVERSAL` has.** -/
theorem answers_eq (hoff : c ∉ table.linearIsa d)
    (hroot : ∀ root, table.lookup universalName = some root → c ∉ table.linearIsa root) :
    table'.linearIsa d = table.linearIsa d ∧
    (∀ name, table'.findMethod d name = table.findMethod d name) ∧
    ∀ ancestor, table'.isSubclass d ancestor = table.isSubclass d ancestor := by
  have horder := same.linearIsa_eq hoff
  refine ⟨horder, fun name => ?_, fun ancestor => ?_⟩
  · rw [findMethod_eq, findMethod_eq, same.inherited_eq hoff, same.lookup_eq, horder]
    cases hlookup : table.lookup universalName with
    | none => rfl
    | some root => rw [Option.bind_some, Option.bind_some, same.inherited_eq (hroot root hlookup)]
  · rw [isSubclass, isSubclass, same.name_eq, horder]

end SameBut

/-! ## New classes -/

@[simp] theorem method_addStash (table : SymbolTable) (name : String) (id other : StashId)
    (method : String) : (table.addStash name id).method other method = table.method other method := by
  -- The new class has no methods, and none were found under its number before.
  simp only [SymbolTable.method, addStash, get?, Array.getElem?_push]
  by_cases hother : other.index = table.stashes.size
  · simp [hother]
  · simp [hother]

/-- A class that is added changes no linear order. -/
@[simp] theorem linearIsa_addStash (table : SymbolTable) (name : String) (id other : StashId) :
    (table.addStash name id).linearIsa other = table.linearIsa other := by
  have hwalk : ∀ depth seen c, (table.addStash name id).walk depth seen c =
      table.walk depth seen c := by
    intro depth
    induction depth with
    | zero =>
      intro seen c
      rfl
    | succ depth ih =>
      intro seen c
      rw [walk, walk, isa_addStash, funext fun s => funext fun x => ih s x]
  exact hwalk (table.maxDepth + 1) [] other

@[simp] theorem inherited_addStash (table : SymbolTable) (name : String) (id other : StashId)
    (method : String) :
    (table.addStash name id).inherited other method = table.inherited other method := by
  simp only [inherited, linearIsa_addStash, method_addStash]

/-- A new name is found under the number given out for it, and other names where they were. -/
theorem lookup_addStash (table : SymbolTable) (name other : String) (id : StashId) :
    (table.addStash name id).lookup other =
      if other = name then some id else table.lookup other := by
  unfold lookup addStash
  by_cases hother : other = name
  · simp [hother]
  · simp [Table.get?_insert_ne, hother]

/-- Past the last class there are no methods and no parents yet. -/
theorem inherited_of_index_eq_size {id : StashId} (hid : id.index = table.size) (method : String) :
    table.inherited id method = none := by
  have hget : table.get? id = none := by simp [get?, hid, size]
  have horder : table.linearIsa id = [id] := by simp [linearIsa, walk, isa, hget]
  simp [inherited, horder, SymbolTable.method, hget]

/-- **A class that is added changes no answer to a method call**, also if it is `UNIVERSAL`. -/
theorem findMethod_addStash {name : String} {id : StashId} (hnew : table.lookup name = none)
    (hid : id.index = table.size) (other : StashId) (method : String) :
    (table.addStash name id).findMethod other method = table.findMethod other method := by
  rw [findMethod_eq, findMethod_eq, inherited_addStash, linearIsa_addStash, lookup_addStash]
  by_cases hroot : universalName = name
  · subst hroot
    rw [if_pos rfl, hnew, Option.bind_some, Option.bind_none, inherited_addStash,
      inherited_of_index_eq_size hid, ite_self]
  · rw [if_neg hroot]
    simp only [inherited_addStash]

end SymbolTable

namespace ClassChange

open SymbolTable

/-- The class that an operation is about; making a class is about none that is there. -/
def subject? : ClassChange → Option StashId
  | intern _ => none
  | defineMethod id _ _ => some id
  | defineNative id _ _ => some id
  | removeMethod id _ => some id
  | setIsa id _ => some id

/-- An operation on a class changes nothing but that class. -/
theorem sameBut_apply {change : ClassChange} {c : StashId} (h : change.subject? = some c)
    (world : World) : SameBut c world.classes (change.apply world).classes := by
  cases change with
  | intern name => exact absurd h (by simp [subject?])
  | defineMethod id name code =>
    obtain rfl := Option.some.inj h
    exact .defineMethod world.classes id name code
  | defineNative id name native =>
    obtain rfl := Option.some.inj h
    obtain ⟨code, hcode⟩ := Action.final_defineNative id name native world
    rw [apply, hcode]
    exact .defineMethod world.classes id name code
  | removeMethod id name =>
    obtain rfl := Option.some.inj h
    exact .removeMethod world.classes id name
  | setIsa id parents =>
    obtain rfl := Option.some.inj h
    simp only [apply, Action.final_setIsa]
    cases hset : world.classes.setIsa id parents with
    | ok classes => exact .of_setIsa hset
    | error e => exact .refl id world.classes

/-- **Changes to a class are local to its descendants.** For all tables, also such with cycles: an
operation on a class `c` leaves the linear order of `d` and all answers about `d` as they are, if `c`
is in the linear order neither of `d` nor of `UNIVERSAL`, should there be one; and making a class
leaves all linear orders and all answers to method calls as they are. -/
theorem answers_local (world : World) :
    (∀ (change : ClassChange) (c d : StashId), change.subject? = some c →
      c ∉ world.classes.linearIsa d →
      (∀ root, world.classes.lookup universalName = some root →
        c ∉ world.classes.linearIsa root) →
      let after := (change.apply world).classes
      after.linearIsa d = world.classes.linearIsa d ∧
      (∀ name, after.findMethod d name = world.classes.findMethod d name) ∧
      ∀ ancestor, after.isSubclass d ancestor = world.classes.isSubclass d ancestor) ∧
    ∀ (name : String) (d : StashId),
      let after := ((intern name).apply world).classes
      after.linearIsa d = world.classes.linearIsa d ∧
      ∀ method, after.findMethod d method = world.classes.findMethod d method := by
  constructor
  · intro change c d hsubject hoff hroot
    exact (sameBut_apply hsubject world).answers_eq hoff hroot
  · intro name d
    rcases intern_apply name world with hsame | ⟨id, hnew, hid, hadded⟩
    · rw [hsame]
      exact ⟨rfl, fun _ => rfl⟩
    · rw [hadded]
      exact ⟨world.classes.linearIsa_addStash name id d, findMethod_addStash hnew hid d⟩

/-- `Leaf` under `Base`, a walk of no links, and `UNIVERSAL` with a method. `Base` is just past the
end of the walk from `Leaf`. -/
def justPast : World :=
  run [.intern "Leaf", .intern "Base", .intern "UNIVERSAL", .setIsa ⟨0⟩ [⟨1⟩],
    .defineMethod ⟨2⟩ "name" ⟨5⟩] { (default : World) with classes := .empty 0 }

/-- A method of `Base` is not seen from `Leaf`, which goes on to find the one of `UNIVERSAL`. -/
theorem answers_local_justPast :
    (⟨1⟩ : StashId) ∈ justPast.classes.isa ⟨0⟩ ∧
    let after := ((defineMethod ⟨1⟩ "name" ⟨6⟩).apply justPast).classes
    after.findMethod ⟨1⟩ "name" = some ⟨6⟩ ∧ after.findMethod ⟨0⟩ "name" = some ⟨5⟩ := by
  have hfound : justPast.classes.findMethod ⟨0⟩ "name" = some ⟨5⟩ := by decide +kernel
  have hoff : (⟨1⟩ : StashId) ∉ justPast.classes.linearIsa ⟨0⟩ := by decide +kernel
  have hroot : ∀ root, justPast.classes.lookup universalName = some root →
      (⟨1⟩ : StashId) ∉ justPast.classes.linearIsa root := by
    intro root hlookup
    have huniversal : justPast.classes.lookup universalName = some ⟨2⟩ := by decide +kernel
    obtain rfl := Option.some.inj (huniversal.symm.trans hlookup)
    decide +kernel
  obtain ⟨hlocal, -⟩ := answers_local justPast
  obtain ⟨-, hmethods, -⟩ := hlocal (.defineMethod ⟨1⟩ "name" ⟨6⟩) ⟨1⟩ ⟨0⟩ rfl hoff hroot
  refine ⟨by decide +kernel, by decide +kernel, ?_⟩
  rw [hmethods, hfound]

end ClassChange

end DynamicValues
