import DynamicValues.Warning
import DynamicValues.Class.SymbolTable
import DynamicValues.World.Snapshot

/-!
# The world of a running program

A `World` is all that operations on values read and change: the heap, the classes, the open dynamic
scopes, the warnings and the settings. Worlds are independent of each other.

An `Action` is an operation on a world that may fail. A failure keeps the world as it was when the
operation failed, so what a failed operation leaves behind can be seen and stated.
-/

set_option autoImplicit false

namespace DynamicValues

/-- What a world can be told at its making. -/
structure Settings where
  /-- Report warnings. -/
  warnings : Bool := false
  /-- The memory that the program of a pattern may take, in bytes. -/
  regexSizeLimit : Nat := 10 * 1024 * 1024
  /-- How many parent links a walk over classes follows. -/
  maxIsaDepth : Nat := 100
  deriving Repr, DecidableEq, Inhabited

/-- Where bodies lie in memory. An address shows in texts and counts as a number; all that is known
of it is that it is positive. -/
structure Addresses where
  address : Value → Nat
  pos : ∀ v, 0 < address v

instance : Inhabited Addresses := ⟨⟨fun v => v.id + 1, fun v => Nat.succ_pos v.id⟩⟩

/-- The state of a running program. -/
structure World where
  settings : Settings
  addresses : Addresses := default
  heap : Heap := .empty
  classes : SymbolTable
  /-- The open scopes, innermost first, each with its snapshots, newest first. -/
  scopes : List (List Snapshot) := []
  log : WarningLog := {}

instance : Inhabited World := ⟨{ settings := {}, classes := .empty 100 }⟩

namespace World

/-- A world with nothing in it. -/
def start (settings : Settings) (addresses : Addresses) (sink : WarningSink) : World where
  settings := settings
  addresses := addresses
  classes := .empty settings.maxIsaDepth
  log := { sink }

/-- Reports a warning if warnings are on. -/
def warn (world : World) (warning : Warning) : World :=
  if world.settings.warnings then { world with log := world.log.report warning } else world

/-- Reports warnings in order. -/
def warnAll (world : World) (warnings : List Warning) : World := warnings.foldl warn world

/-! ## Dynamic scopes -/

/-- How many scopes are open. -/
def localDepth (world : World) : Nat := world.scopes.length

/-- Opens a scope. -/
def openScope (world : World) : World := { world with scopes := [] :: world.scopes }

/-- Keeps a snapshot until the innermost scope closes. -/
def save (world : World) (snapshot : Snapshot) : World :=
  match world.scopes with
  | [] => { world with scopes := [[snapshot]] }
  | frame :: frames => { world with scopes := (snapshot :: frame) :: frames }

/-- Closes the innermost scope and restores what was localized in it, newest first. -/
def closeScope (world : World) : World :=
  match world.scopes with
  | [] => world
  | frame :: frames =>
    { world with heap := Snapshot.restoreAll world.heap frame, scopes := frames }

end World

/-- An operation on a world that may fail. -/
abbrev Action (α : Type) : Type := EStateM ValueError World α

namespace Action

variable {α : Type}

/-- A change of the heap that cannot fail. -/
def onHeap (change : Heap → α × Heap) : Action α := fun world =>
  let (answer, heap) := change world.heap
  .ok answer { world with heap }

/-- A change of the classes that cannot fail. -/
def onClasses (change : SymbolTable → α × SymbolTable) : Action α := fun world =>
  let (answer, classes) := change world.classes
  .ok answer { world with classes }

/-- A question that may fail and changes nothing. -/
def ask (question : World → Except ValueError α) : Action α := fun world =>
  match question world with
  | .ok answer => .ok answer world
  | .error e => .error e world

/-- Runs an operation in a scope of its own, which closes however the operation ends. -/
def inScope (body : Action α) : Action α := fun world =>
  match body world.openScope with
  | .ok answer world => .ok answer world.closeScope
  | .error e world => .error e world.closeScope

/-- Localizes a value until the innermost scope closes. -/
def localize (v : Value) : Action Unit := fun world =>
  let (snapshot, heap) := world.heap.localize v
  .ok () ({ world with heap }.save snapshot)

/-- Localizes an element of a hash until the innermost scope closes; answers the fresh cell. -/
def localizeElement (hash : Value) (key : String) : Action Value := fun world =>
  match world.heap.localizeElement hash key with
  | .ok ((snapshot, cell), heap) => .ok cell ({ world with heap }.save snapshot)
  | .error e => .error e world

/-- The class with a name, made if there is none. -/
def intern (name : String) : Action StashId := fun world =>
  match world.classes.intern name with
  | .ok (id, classes) => .ok id { world with classes }
  | .error e => .error e world

/-- Replaces the parents of a class. -/
def setIsa (id : StashId) (parents : List StashId) : Action Unit := fun world =>
  match world.classes.setIsa id parents with
  | .ok classes => .ok () { world with classes }
  | .error e => .error e world

/-- Puts a fresh subroutine with a native body into a class, named after both. -/
def defineNative (id : StashId) (name : String) (native : Native) : Action Value := fun world =>
  let fullName := world.classes.name id ++ "::" ++ name
  let (code, heap) := world.heap.newCode fullName (some native)
  .ok code { world with heap, classes := (world.classes.defineMethod id name code).2 }

end Action

end DynamicValues
