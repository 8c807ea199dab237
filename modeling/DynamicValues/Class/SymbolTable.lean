import DynamicValues.Error
import DynamicValues.Heap.Basic

/-!
# Classes and inheritance

A class has a name, methods of its own and an ordered list of parents. The table numbers classes in
the order of their making, keeps the numbers under the names and never takes a class away. Numbers are
words of 32 bits, so a table has room for `2 ^ 32` classes.

Methods are looked for depth first and from left to right: a class with parents `B` and `C` is
searched itself, then all that `B` leads to, then all that `C` leads to. A class that is reached
twice counts at its first place only. A walk goes at most `maxDepth` parent links deep. The class
`UNIVERSAL` is searched last, unless the walk met it before.

Every change adds one to `generation`, so an answer may be kept as long as that stays the same.
-/

set_option autoImplicit false

namespace DynamicValues

/-- A class. -/
structure Stash where
  name : String
  /-- The subroutines defined directly in the class. -/
  methods : Table Value := .empty
  /-- The parents in search order. -/
  isa : List StashId := []

/-- All classes; the number of a class is its place. -/
structure SymbolTable where
  stashes : Array Stash := #[]
  /-- The number of each class under its name. -/
  byName : Table StashId := .empty
  generation : Nat := 0
  /-- How many parent links a walk follows. -/
  maxDepth : Nat

namespace SymbolTable

/-- The name of the class that every class counts as derived from. -/
def universalName : String := "UNIVERSAL"

/-- The name shown for a class that is not in the table. -/
def unknownName : String := "__ANON__"

def empty (maxDepth : Nat) : SymbolTable := { maxDepth }

instance : Inhabited SymbolTable := ⟨empty 0⟩

def size (table : SymbolTable) : Nat := table.stashes.size

def get? (table : SymbolTable) (id : StashId) : Option Stash := table.stashes[id.index]?

/-- The name of a class. -/
def name (table : SymbolTable) (id : StashId) : String :=
  match table.get? id with
  | some stash => stash.name
  | none => unknownName

/-- The class with a name. -/
def lookup (table : SymbolTable) (name : String) : Option StashId := table.byName.get? name

/-- The parents of a class in search order. -/
def isa (table : SymbolTable) (id : StashId) : List StashId :=
  match table.get? id with
  | some stash => stash.isa
  | none => []

/-- The method defined directly in a class. -/
def method (table : SymbolTable) (id : StashId) (name : String) : Option Value :=
  (table.get? id).bind (·.methods.get? name)

/-! ## Changes -/

/-- Replaces a class that is in the table, which is a change. -/
def setStash (table : SymbolTable) (id : StashId) (stash : Stash) : SymbolTable :=
  { table with
    stashes := table.stashes.setIfInBounds id.index stash
    generation := table.generation + 1 }

/-- Adds a class without methods and parents under a number, which is a change. -/
def addStash (table : SymbolTable) (name : String) (id : StashId) : SymbolTable :=
  { table with
    stashes := table.stashes.push { name }
    byName := table.byName.insert name id
    generation := table.generation + 1 }

/-- The class with a name, made if there is none. Refuses a new class when all numbers are given
out. -/
def intern (table : SymbolTable) (name : String) : Except ValueError (StashId × SymbolTable) :=
  match table.lookup name with
  | some id => .ok (id, table)
  | none =>
    match StashId.ofIndex? table.size with
    | some id => .ok (id, table.addStash name id)
    | none => .error .stashIdsExhausted

/-- Puts a method into a class and answers the one it replaces. A class that is not in the table
stays unknown. -/
def defineMethod (table : SymbolTable) (id : StashId) (name : String) (code : Value) :
    Option Value × SymbolTable :=
  match table.get? id with
  | none => (none, table)
  | some stash =>
    (stash.methods.get? name,
      table.setStash id { stash with methods := stash.methods.insert name code })

/-- Takes a method out of a class and answers it. -/
def removeMethod (table : SymbolTable) (id : StashId) (name : String) :
    Option Value × SymbolTable :=
  match table.get? id with
  | none => (none, table)
  | some stash =>
    match stash.methods.get? name with
    | none => (none, table)
    | some code =>
      (some code, table.setStash id { stash with methods := stash.methods.erase name })

/-! ## Walks -/

/-- The classes seen so far followed by those that a walk from `id` adds, `depth` being how many
classes deep it may go. -/
def walk (table : SymbolTable) : (depth : Nat) → (seen : List StashId) → StashId → List StashId
  | 0, seen, _ => seen
  | depth + 1, seen, id =>
    if id ∈ seen then seen
    else (table.isa id).foldl (table.walk depth) (seen ++ [id])

/-- A class followed by its ancestors in search order, each once. -/
def linearIsa (table : SymbolTable) (id : StashId) : List StashId :=
  table.walk (table.maxDepth + 1) [] id

/-- Whether a class is `ancestor` or inherits from it. Every class is a `UNIVERSAL`. -/
def isSubclass (table : SymbolTable) (id ancestor : StashId) : Bool :=
  table.name ancestor == universalName || (table.linearIsa id).contains ancestor

/-- The method that a call on a class finds. -/
def findMethod (table : SymbolTable) (id : StashId) (name : String) : Option Value :=
  let order := table.linearIsa id
  match order.findSome? (table.method · name) with
  | some code => some code
  | none =>
    match table.lookup universalName with
    | some universal =>
      if order.contains universal then none
      else (table.linearIsa universal).findSome? (table.method · name)
    | none => none

/-- Replaces the parents of a class. Refuses classes that are not in the table, and parents that are
the class itself or lead to it. -/
def setIsa (table : SymbolTable) (id : StashId) (parents : List StashId) :
    Except ValueError SymbolTable :=
  match (id :: parents).find? fun candidate => (table.get? candidate).isNone with
  | some unknown => .error (.unknownStash unknown.number)
  | none =>
    if parents.any fun parent => parent == id || (table.linearIsa parent).contains id then
      .error (.recursiveInheritance (table.name id))
    else
      match table.get? id with
      | some stash => .ok (table.setStash id { stash with isa := parents })
      | none => .error (.unknownStash id.number)

end SymbolTable

end DynamicValues
