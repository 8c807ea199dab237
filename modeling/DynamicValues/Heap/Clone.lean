import DynamicValues.Heap.Basic

/-!
# Copies bounded by depth

`Heap.clone` copies a body with the cells it holds and follows references up to a number of hops.
Where that number is spent, the copy refers to the very body that the original refers to.

It works in two passes. A *tour* walks the originals in the order of a depth-first search and
numbers each at its first visit, with the hops that were left then. After that the place of every
copy is known, so all copies are written at once: a body seen twice is copied once, and cycles need
no care. A glob keeps its slots, and a copy has no match position.

A hash has no order of its own. A tour visits its cells in an order that it is given, a `HashOrder`.
-/

set_option autoImplicit false

namespace DynamicValues

/-- The originals met so far: each with the hops left at its first visit, in the order of those, and
for each body of the heap its number in that order. -/
structure Tour where
  visits : Array (Value × Nat)
  numbers : Array (Option Nat)

namespace Tour

/-- No body visited, in a heap of the given size. -/
def start (size : Nat) : Tour := ⟨#[], Array.replicate size none⟩

/-- How many bodies were not visited. -/
def unvisited (tour : Tour) : Nat := tour.numbers.countP Option.isNone

/-- Numbers a body. -/
def visit (tour : Tour) (v : Value) (hops : Nat) : Tour :=
  let number := tour.visits.size
  ⟨tour.visits.push (v, hops), tour.numbers.setIfInBounds v.id (some number)⟩

theorem unvisited_visit_lt {tour : Tour} {v : Value} {hops : Nat}
    (h : tour.numbers[v.id]? = some none) : (tour.visit v hops).unvisited < tour.unvisited := by
  obtain ⟨hlt, hnone⟩ := Array.getElem?_eq_some_iff.1 h
  have hmem : none ∈ tour.numbers := hnone ▸ Array.getElem_mem hlt
  have hpos : 0 < tour.numbers.countP Option.isNone :=
    Array.countP_pos_iff.2 ⟨none, hmem, rfl⟩
  simp only [unvisited, visit, Array.setIfInBounds, hlt, dif_pos, Array.countP_set, hnone]
  simp
  omega

end Tour

/-- An order in which the cells of hashes are visited: for each hash any listing of its cells. -/
structure HashOrder where
  cells : Value → Table Value → List Value
  perm : ∀ v entries, (cells v entries).Perm entries.values

namespace HashOrder

/-- By ascending keys. -/
def ascending : HashOrder := ⟨fun _ entries => entries.values, fun _ _ => .refl _⟩

theorem mem_cells_iff (order : HashOrder) (v : Value) (entries : Table Value) {w : Value} :
    w ∈ order.cells v entries ↔ w ∈ entries.values := (order.perm v entries).mem_iff

end HashOrder

namespace Heap

/-- What a copy of a body leads on to, with the hops left there: the target of a reference if a hop
is left, and the cells of an array or hash. -/
def successors (heap : Heap) (order : HashOrder) (v : Value) (hops : Nat) : List (Value × Nat) :=
  match heap.content v, hops with
  | .scalar (.ref target) _, hops + 1 => [(target, hops)]
  | .array items, hops => items.toList.map fun cell => (cell, hops)
  | .hash entries, hops => (order.cells v entries).map fun cell => (cell, hops)
  | _, _ => []

/-- Goes on with a tour; `pending` holds what is still to be visited, next one first. -/
def tourFrom (heap : Heap) (order : HashOrder) (pending : List (Value × Nat)) (tour : Tour) :
    Tour :=
  match pending with
  | [] => tour
  | (v, hops) :: pending =>
    match _h : tour.numbers[v.id]? with
    | some none => heap.tourFrom order (heap.successors order v hops ++ pending) (tour.visit v hops)
    | _ => heap.tourFrom order pending tour
termination_by (tour.unvisited, pending.length)
decreasing_by
  · exact Prod.Lex.left _ _ (Tour.unvisited_visit_lt _h)
  · exact Prod.Lex.right _ (by simp)

/-- The tour of all that a copy of `v` copies. -/
def tour (heap : Heap) (order : HashOrder) (v : Value) (hops : Nat) : Tour :=
  heap.tourFrom order [(v, hops)] (.start heap.size)

end Heap

namespace Tour

/-- Where the copy of a body goes in a heap of the given size; a body that is not copied stays. -/
def image (tour : Tour) (size : Nat) (v : Value) : Value :=
  match tour.numbers[v.id]? with
  | some (some number) => ⟨size + number⟩
  | _ => v

/-- The copy of a content: all it leads on to is replaced by its copy. -/
def copyContent (tour : Tour) (size hops : Nat) : Content → Content
  | .scalar (.ref target) _ =>
    .scalar (.ref (if 0 < hops then tour.image size target else target)) none
  | .scalar datum _ => .scalar datum none
  | .array items => .array (items.map (tour.image size))
  | .hash entries => .hash (entries.map (tour.image size))
  | content => content

/-- The copies of all visited bodies, in the order of the visits. -/
def copies (tour : Tour) (heap : Heap) : Array Body :=
  tour.visits.map fun (v, hops) =>
    let body := heap.body v
    { body with content := tour.copyContent heap.size hops body.content }

end Tour

namespace Heap

/-- A copy of `v` that follows at most `hops` references. -/
def clone (heap : Heap) (order : HashOrder) (v : Value) (hops : Nat) : Value × Heap :=
  let tour := heap.tour order v hops
  (tour.image heap.size v, ⟨heap.bodies ++ tour.copies heap⟩)

/-- The number of hops that stands for all of them, `2 ^ 64 - 1`. -/
def allHops : Nat := 0xFFFFFFFFFFFFFFFF

end Heap

end DynamicValues
