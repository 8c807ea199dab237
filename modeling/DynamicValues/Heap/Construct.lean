import DynamicValues.Heap.Basic

/-!
# Making values

Each function adds fresh bodies and answers the handle on the value with the longer heap. A list of
data becomes a list of fresh cells, one for each.
-/

set_option autoImplicit false

namespace DynamicValues.Heap

/-- A fresh scalar cell. -/
def newScalar (heap : Heap) (datum : Datum) : Value × Heap :=
  heap.allocContent (.scalar datum none)

/-- A fresh scalar that refers to a body. -/
def newReference (heap : Heap) (target : Value) : Value × Heap := heap.newScalar (.ref target)

/-- A fresh cell for each datum, in order. -/
def newCells (heap : Heap) : List Datum → List Value × Heap
  | [] => ([], heap)
  | datum :: data =>
    let (cell, heap) := heap.newScalar datum
    let (cells, heap) := newCells heap data
    (cell :: cells, heap)

/-- A fresh array of fresh cells. -/
def newArray (heap : Heap) (data : List Datum) : Value × Heap :=
  let (cells, heap) := heap.newCells data
  heap.allocContent (.array cells.toArray)

/-- A table of fresh cells on top of another one; a later pair replaces an earlier one with the same
key. -/
def newEntries (heap : Heap) (entries : Table Value) : List (String × Datum) → Table Value × Heap
  | [] => (entries, heap)
  | (key, datum) :: pairs =>
    let (cell, heap) := heap.newScalar datum
    newEntries heap (entries.insert key cell) pairs

/-- A fresh hash of fresh cells. -/
def newHash (heap : Heap) (pairs : List (String × Datum)) : Value × Heap :=
  let (entries, heap) := heap.newEntries .empty pairs
  heap.allocContent (.hash entries)

/-- A fresh subroutine, declared only if it has no native body. -/
def newCode (heap : Heap) (name : String) (native : Option Native) : Value × Heap :=
  heap.allocContent (.code name native)

/-- A fresh glob with empty slots. -/
def newGlob (heap : Heap) (package name : String) : Value × Heap :=
  heap.allocContent (.glob package name {})

def newHandle (heap : Heap) (name : String) : Value × Heap := heap.allocContent (.handle name)

def newRegex (heap : Heap) (pattern : CompiledPattern) : Value × Heap :=
  heap.allocContent (.regex pattern)

end DynamicValues.Heap
