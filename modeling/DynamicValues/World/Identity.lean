import DynamicValues.World.Basic

/-!
# Class identity

Blessing, `ref` names and method calls act on the *invocant* of a value: what it refers to if it is
a reference, the value itself if it is no scalar. A scalar that holds a text names a class when a
method is called on it.
-/

set_option autoImplicit false

namespace DynamicValues

namespace Heap

/-- What identity operations act on; `none` for a scalar that is no reference. -/
def invocant? (heap : Heap) (v : Value) : Option Value :=
  match heap.datum? v with
  | some datum => datum.target?
  | none => some v

/-- The class of the invocant, or of a plain scalar itself. -/
def blessed? (heap : Heap) (v : Value) : Option StashId :=
  heap.blessing ((heap.invocant? v).getD v)

/-- The kind name of a referent; a scalar that is a reference itself counts as `REF`. -/
def referentName (heap : Heap) (v : Value) : String :=
  if heap.isReference v then "REF" else (heap.kind v).name

end Heap

namespace World

/-- The class name of the invocant if it has a class, else its kind name. -/
def typeName (world : World) (v : Value) : String :=
  match world.heap.blessed? v with
  | some id => world.classes.name id
  | none =>
    match world.heap.invocant? v with
    | some target => world.heap.referentName target
    | none => (world.heap.kind v).name

/-- What `ref` answers: nothing for a scalar that is no reference. -/
def refName (world : World) (v : Value) : String :=
  match world.heap.invocant? v with
  | some _ => world.typeName v
  | none => ""

/-- The class that a method call goes through: the class of the invocant, or the class that a text
names. -/
def dispatchClass (world : World) (v : Value) : Option StashId :=
  match world.heap.blessed? v with
  | some id => some id
  | none =>
    match world.heap.datum? v with
    | some (.text name) => world.classes.lookup name
    | _ => none

/-- The method that a call on a value finds. -/
def findMethod (world : World) (v : Value) (name : String) : Option Value :=
  (world.dispatchClass v).bind fun id => world.classes.findMethod id name

/-- Whether the class of a value is the named one or derives from it. A reference without a class
is an instance of its kind name only. -/
def isA (world : World) (v : Value) (className : String) : Bool :=
  match world.dispatchClass v, world.classes.lookup className with
  | some own, some ancestor => world.classes.isSubclass own ancestor
  | none, _ => world.heap.isReference v && world.typeName v == className
  | some _, none => false

end World

/-- Puts the invocant into a class, out of any other. -/
def Action.bless (v : Value) (id : StashId) : Action Unit := fun world =>
  match world.heap.invocant? v with
  | some target => .ok () { world with heap := world.heap.setBlessing target (some id) }
  | none => .error .cannotBless world

end DynamicValues
