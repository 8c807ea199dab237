import DynamicValues.Proofs.Heap.Evolve
import DynamicValues.Proofs.World.Final

/-!
# Scripts

A script is what runs inside a dynamic scope. It does one thing after the other, and what it does
next may depend on all the answers and failures so far, those of a nested scope included. There are
three kinds of things it can do:

* an `Effect`, which is **any** operation that leaves the open scopes alone and lets the heap evolve;
* localize a value or an element of a hash;
* run another script in a scope of its own.

The operations that change contents are listed here as effects. `Script.moments` says when a script
localized what: the localizations in its own scope, oldest first, each with the heap just before.
-/

set_option autoImplicit false

namespace DynamicValues

/-! ## Effects -/

/-- An operation that leaves the open scopes alone and lets the heap evolve. -/
structure Effect (α : Type) where
  run : Action α
  scopes : ∀ world : World, (run.final world).scopes = world.scopes
  evolves : ∀ world : World, world.heap.Evolves (run.final world).heap

namespace Effect

variable {α : Type}

/-- A question, which may look at the whole world. -/
def ask (question : World → Except ValueError α) : Effect α where
  run := .ask question
  scopes := fun world => by rw [Action.final_ask]
  evolves := fun world => by
    rw [Action.final_ask]
    exact .refl _

/-- A change of the heap. -/
def onHeap (change : Heap → α × Heap) (evolves : ∀ heap : Heap, heap.Evolves (change heap).2) :
    Effect α where
  run := .onHeap change
  scopes := fun _ => rfl
  evolves := fun world => evolves world.heap

/-- A change of the classes that cannot fail. -/
def onClasses (change : SymbolTable → α × SymbolTable) : Effect α where
  run := .onClasses change
  scopes := fun _ => rfl
  evolves := fun _ => .refl _

/-- The class with a name, made if there is none. -/
def intern (name : String) : Effect StashId where
  run := .intern name
  scopes := fun world => by
    rw [Action.final_intern]
    cases world.classes.intern name <;> rfl
  evolves := fun world => by
    rw [Action.final_intern]
    cases world.classes.intern name <;> exact .refl _

def setIsa (id : StashId) (parents : List StashId) : Effect Unit where
  run := .setIsa id parents
  scopes := fun world => by
    rw [Action.final_setIsa]
    cases world.classes.setIsa id parents <;> rfl
  evolves := fun world => by
    rw [Action.final_setIsa]
    cases world.classes.setIsa id parents <;> exact .refl _

/-! ### Making values -/

def make (content : Content) : Effect Value :=
  onHeap (·.allocContent content) fun heap => .alloc heap _

def newArray (data : List Datum) : Effect Value :=
  onHeap (·.newArray data) fun heap => heap.evolves_newArray data

def newHash (pairs : List (String × Datum)) : Effect Value :=
  onHeap (·.newHash pairs) fun heap => heap.evolves_newHash pairs

def clone (order : HashOrder) (v : Value) (hops : Nat) : Effect Value :=
  onHeap (·.clone order v hops) fun heap => heap.evolves_clone order v hops

/-! ### Scalars -/

def set (v : Value) (datum : Datum) : Effect Unit where
  run := .set v datum
  scopes := fun world => by
    unfold Action.final Action.set
    cases world.heap.datum? v <;> rfl
  evolves := fun world => by
    unfold Action.final Action.set
    cases world.heap.datum? v with
    | none => exact .refl _
    | some _ => exact (world.heap.rewrites_assign v datum).evolves

def setPosition (v : Value) (position : Option Nat) : Effect Unit :=
  onHeap (fun heap => ((), heap.setPosition v position)) fun heap =>
    (heap.rewrites_setPosition v position).evolves

def undefine (v : Value) : Effect Value := onHeap (·.undefine v) fun heap => heap.evolves_undefine v

/-! ### Arrays and hashes -/

/-- Assigns a list to a scalar, an array or a hash. -/
def assign (v : Value) (items : List Value) : Effect Nat where
  run := .assign v items
  scopes := fun world => by
    unfold Action.final Action.assign
    cases world.heap.kind v with
    | hash => exact World.scopes_warnAll _ _
    | _ => rfl
  evolves := fun world => by
    unfold Action.final Action.assign
    cases world.heap.kind v with
    | scalar => exact (world.heap.rewrites_assign v _).evolves
    | array => exact world.heap.evolves_assignArray v _
    | hash =>
      simp only [World.heap_warnAll]
      exact world.heap.evolves_assignHash v _
    | _ => exact .refl _

def arrayElement (array : Value) (index : Nat) : Effect (Option Value) :=
  onHeap (·.arrayElement array index) fun heap => heap.evolves_arrayElement array index

def push (array : Value) (datum : Datum) : Effect Unit :=
  onHeap (fun heap => ((), heap.push array datum)) fun heap => heap.evolves_push array datum

def pop (array : Value) : Effect (Option Value) :=
  onHeap (·.pop array) fun heap => heap.evolves_pop array

def clear (array : Value) : Effect Unit :=
  onHeap (fun heap => ((), heap.clear array)) fun heap =>
    (heap.rewrites_setItems array _).evolves

def hashElement (hash : Value) (key : String) : Effect (Option Value) :=
  onHeap (·.hashElement hash key) fun heap => heap.evolves_hashElement hash key

def hashInsert (hash : Value) (key : String) (datum : Datum) : Effect Unit :=
  onHeap (fun heap => ((), heap.hashInsert hash key datum)) fun heap =>
    heap.evolves_hashInsert hash key datum

def hashRemove (hash : Value) (key : String) : Effect (Option Value) :=
  onHeap (·.hashRemove hash key) fun heap => heap.evolves_hashRemove hash key

/-! ### References, globs and classes -/

/-- The container that a value refers to, made where the value is undefined. -/
def vivify (v : Value) (kind : ContainerKind) : Effect Value where
  run := .vivify v kind
  scopes := fun world => by
    unfold Action.final Action.vivify Action.ask
    grind
  evolves := fun world => by
    unfold Action.final Action.vivify Action.ask
    cases hundef : world.heap.vivifyUndef v kind with
    | some made => exact world.heap.evolves_vivifyUndef v hundef
    | none =>
      have hglob := world.heap.evolves_globVivify v kind
      rcases hmade : world.heap.globVivify v kind with ⟨container, heap⟩
      rw [hmade] at hglob
      cases container with
      | some container => exact hglob
      | none =>
        dsimp only
        cases world.heap.derefTyped v kind.kind <;> exact .refl _

def globVivify (glob : Value) (kind : ContainerKind) : Effect (Option Value) :=
  onHeap (·.globVivify glob kind) fun heap => heap.evolves_globVivify glob kind

def globSet (glob content : Value) : Effect Unit :=
  onHeap (fun heap => ((), heap.globSet glob content)) fun heap =>
    heap.evolves_globSet glob content

def bless (v : Value) (id : StashId) : Effect Unit where
  run := .bless v id
  scopes := fun world => by
    unfold Action.final Action.bless
    cases world.heap.invocant? v <;> rfl
  evolves := fun world => by
    unfold Action.final Action.bless
    cases world.heap.invocant? v with
    | none => exact .refl _
    | some target => exact .setBody rfl

end Effect

/-! ## Scripts -/

/-- A program that goes on with the answers and failures it gets. -/
inductive Script : Type → Type 1 where
  | done {α : Type} (answer : α) : Script α
  | fail {α : Type} (e : ValueError) : Script α
  | act {α β : Type} (effect : Effect β) (next : Except ValueError β → Script α) : Script α
  | localize {α : Type} (v : Value) (next : Script α) : Script α
  | localizeElement {α : Type} (hash : Value) (key : String)
      (next : Except ValueError Value → Script α) : Script α
  /-- Runs another script in a scope of its own. -/
  | scope {α β : Type} (body : Script β) (next : Except ValueError β → Script α) : Script α

namespace Script

def run {α : Type} : Script α → Action α
  | done answer => pure answer
  | fail e => throw e
  | act effect next => effect.run.attempt fun result => (next result).run
  | localize v next => (Action.localize v).attempt fun _ => next.run
  | localizeElement hash key next =>
    (Action.localizeElement hash key).attempt fun result => (next result).run
  | scope body next => (Action.inScope body.run).attempt fun result => (next result).run

end Script

/-! ## Localizations of a script -/

/-- What can be localized. -/
inductive Target where
  | value (v : Value)
  | element (hash : Value) (key : String)
  deriving DecidableEq

/-- A localization, with the heap just before. -/
structure Moment where
  heap : Heap
  target : Target

/-- What a localization keeps for the end of the scope. -/
def Moment.snapshot (moment : Moment) : Snapshot :=
  match moment.target with
  | .value v => (moment.heap.localize v).1
  | .element hash key => .element hash key (moment.heap.hashGet? hash key)

/-- The localizations that a script makes in its own scope, oldest first. Those of nested scopes do
not belong to it, and neither do those that fail. -/
def Script.moments {α : Type} : Script α → World → List Moment
  | done _, _ => []
  | fail _, _ => []
  | act effect next, world =>
    (next (effect.run.outcome world)).moments (effect.run.final world)
  | localize v next, world =>
    ⟨world.heap, .value v⟩ :: next.moments ((Action.localize v).final world)
  | localizeElement hash key next, world =>
    let result := (Action.localizeElement hash key).outcome world
    let rest := (next result).moments ((Action.localizeElement hash key).final world)
    match result with
    | .ok _ => ⟨world.heap, .element hash key⟩ :: rest
    | .error _ => rest
  | scope body next, world =>
    (next ((Action.inScope body.run).outcome world)).moments
      ((Action.inScope body.run).final world)

end DynamicValues
