import DynamicValues.Proofs.Heap.Accounts
import DynamicValues.Proofs.Heap.Filled
import DynamicValues.Proofs.World.Enumeration
import DynamicValues.World.Coercion

/-!
# Reading items

The items of a list come from values as they stand and from walks (`ListPart`). What they hold is told
in two ways. `ListPart.contents` says it of the heap as it is before the first item is asked for.
`ListPart.read` asks for one item after the other and reads each at once, in the heap as it then is.
To gather all items and to read them afterwards is a third way (`ListPart.gather`).

Asking for an item adds a scalar to the heap at most, for a key, and leaves all bodies alone. One step of
a walk therefore takes the first of its contents away and keeps the rest (`Enumerator.next_cases`), and
by induction on the steps all three ways agree (`ListPart.gathers_gather`).
-/

set_option autoImplicit false

namespace DynamicValues

variable {heap heap' heap'' : Heap} {v : Value}

namespace Heap

theorem Extends.scalarContent (h : heap.Extends heap') (hv : v.id < heap.size) :
    heap'.scalarContent v = heap.scalarContent v := by
  unfold Heap.scalarContent
  rw [h.content hv]

theorem Extends.map_scalarContent (h : heap.Extends heap') {handles : List Value}
    (gave : heap.Gave handles) :
    handles.map heap'.scalarContent = handles.map heap.scalarContent :=
  List.map_congr_left fun w hw => h.scalarContent (gave w hw)

theorem Extends.gave (h : heap.Extends heap') {handles : List Value} (gave : heap.Gave handles) :
    heap'.Gave handles := fun w hw => Nat.lt_of_lt_of_le (gave w hw) h.size

theorem scalarContent_newScalar (heap : Heap) (datum : Datum) :
    (heap.newScalar datum).2.scalarContent (heap.newScalar datum).1 = datum := by
  unfold scalarContent
  rw [content, body_newScalar]
  rfl

/-- The items were handed out on the way from one heap to a longer one, and this is what they hold. -/
structure Gathers (heap : Heap) (items : List Value) (data : List Datum) (heap' : Heap) : Prop where
  longer : heap.Extends heap'
  given : heap'.Gave items
  contents : items.map heap'.scalarContent = data

namespace Gathers

variable {items items' : List Value} {data data' : List Datum}

theorem nil (heap : Heap) : heap.Gathers [] [] heap := ⟨.refl heap, gave_nil heap, rfl⟩

theorem one (hv : v.id < heap.size) : heap.Gathers [v] [heap.scalarContent v] heap :=
  ⟨.refl heap, (gave_nil heap).cons hv, rfl⟩

theorem append (h : heap.Gathers items data heap') (h' : heap'.Gathers items' data' heap'') :
    heap.Gathers (items ++ items') (data ++ data') heap'' where
  longer := h.longer.trans h'.longer
  given := by
    intro w hw
    rcases List.mem_append.1 hw with hw | hw
    · exact h'.longer.gave h.given w hw
    · exact h'.given w hw
  contents := by
    rw [List.map_append, h'.longer.map_scalarContent h.given, h.contents, h'.contents]

theorem length_eq (h : heap.Gathers items data heap') : items.length = data.length := by
  rw [← h.contents, List.length_map]

end Gathers

end Heap

namespace Enumerator

/-! ## What a walk is about to read -/

def container : Enumerator → Value
  | array a _ => a
  | hash h _ _ => h

/-- The cell that is due after a key. -/
def due? : Enumerator → Option Value
  | array _ _ => none
  | hash _ _ pending => pending

/-- The handles that a walk keeps. -/
def handles (walk : Enumerator) : List Value := walk.container :: walk.due?.toList

/-- The heap gave out all handles that the walk can come to. -/
structure Fits (walk : Enumerator) (heap : Heap) : Prop where
  handles : heap.Gave walk.handles
  cells : heap.Gave (heap.content walk.container).cells

/-- A key and what its cell holds; nothing if the key is gone. -/
def entryContents (heap : Heap) (hash : Value) (key : String) : List Datum :=
  match heap.hashGet? hash key with
  | some cell => [.text key, heap.scalarContent cell]
  | none => []

/-- What the members hold that are still to come, as long as nothing changes. -/
def contents (heap : Heap) : Enumerator → List Datum
  | array a index => (((heap.items? a).getD #[]).toList.drop index).map heap.scalarContent
  | hash h keys pending =>
    pending.toList.map heap.scalarContent ++ keys.flatMap (entryContents heap h)

/-- Takes up to `steps` members and reads each of them as soon as it comes. -/
def read (heap : Heap) (walk : Enumerator) : (steps : Nat) → List Datum × Heap
  | 0 => ([], heap)
  | steps + 1 =>
    match walk.next heap with
    | (some member, walk, heap) =>
      let (data, heap') := read heap walk steps
      (heap.scalarContent member :: data, heap')
    | (none, _, heap) => ([], heap)

variable {walk : Enumerator}

theorem fits_of_closed (closed : heap.Closed) (given : heap.Gave walk.handles) : walk.Fits heap where
  handles := given
  cells := by
    have hfits := closed.fits walk.container
    unfold Content.Fits at hfits
    cases hcontent : heap.content walk.container with
    | array items | hash entries =>
      rw [hcontent] at hfits
      exact hfits
    | scalar | code | glob | handle | regex => exact heap.gave_nil

theorem Fits.lt_size (fits : walk.Fits heap) : walk.container.id < heap.size :=
  fits.handles _ List.mem_cons_self

theorem Fits.extends (fits : walk.Fits heap) (h : heap.Extends heap') : walk.Fits heap' where
  handles := h.gave fits.handles
  cells := by
    rw [h.content fits.lt_size]
    exact h.gave fits.cells

theorem gave_items {a : Value} {index : Nat} (fits : (array a index).Fits heap) :
    heap.Gave ((heap.items? a).getD #[]).toList := by
  cases hitems : heap.items? a with
  | none => exact heap.gave_nil
  | some items =>
    have hcells := fits.cells
    rw [container, Heap.items?_eq_some_iff.1 hitems] at hcells
    exact hcells

theorem lt_size_of_hashGet? {h cell : Value} {keys : List String} {pending : Option Value}
    {key : String} (fits : (hash h keys pending).Fits heap)
    (hget : heap.hashGet? h key = some cell) : cell.id < heap.size := by
  obtain ⟨entries, hentries, hcell⟩ := Option.bind_eq_some_iff.1 hget
  have hcells := fits.cells
  rw [container, Heap.entries?_eq_some_iff.1 hentries] at hcells
  exact hcells cell (Table.mem_values_of_get? hcell)

/-- **What is read stays the same in a longer heap.** -/
theorem contents_extends (fits : walk.Fits heap) (h : heap.Extends heap') :
    walk.contents heap' = walk.contents heap := by
  cases walk with
  | array a index =>
    have hcontent : heap'.content a = heap.content a := h.content fits.lt_size
    simp only [contents, Heap.items?, hcontent]
    exact h.map_scalarContent ((gave_items fits).subset (List.drop_subset _ _))
  | hash hash keys pending =>
    have hentries (key : String) : heap'.hashGet? hash key = heap.hashGet? hash key := by
      simp only [Heap.hashGet?, Heap.entries?, h.content (v := hash) fits.lt_size]
    have hentry (key : String) : entryContents heap' hash key = entryContents heap hash key := by
      unfold entryContents
      rw [hentries]
      cases hget : heap.hashGet? hash key with
      | none => rfl
      | some cell => simp only [h.scalarContent (lt_size_of_hashGet? fits hget)]
    have hdue : heap.Gave pending.toList := fits.handles.subset (List.subset_cons_self _ _)
    simp only [contents, h.map_scalarContent hdue, funext hentry]

/-! ## One step -/

/-- The walk hands out a member, and what it holds is the first that was to be read. -/
structure HandsOut (heap : Heap) (walk : Enumerator) (member : Value) (rest : Enumerator)
    (heap' : Heap) : Prop where
  next : walk.next heap = (some member, rest, heap')
  longer : heap.Extends heap'
  given : member.id < heap'.size
  fits : rest.Fits heap'
  contents : walk.contents heap = heap'.scalarContent member :: rest.contents heap'

theorem flatMap_entryContents_eq_nil {h : Value} {keys : List String}
    (gone : ∀ key ∈ keys, heap.hashGet? h key = none) :
    keys.flatMap (entryContents heap h) = [] := by
  refine List.flatMap_eq_nil_iff.2 fun key hkey => ?_
  rw [entryContents, gone key hkey]

/-- **One step of a walk** hands out a member, unless there is nothing left to read. -/
theorem next_cases (fits : walk.Fits heap) :
    (∃ rest, walk.next heap = (none, rest, heap) ∧ walk.contents heap = []) ∨
      ∃ member rest heap', HandsOut heap walk member rest heap' := by
  cases walk with
  | array a index =>
    cases hcell : heap.arrayGet? a index with
    | none =>
      refine .inl ⟨array a index, by simp only [next, hcell], ?_⟩
      have hsize := Heap.arrayGet?_eq_none_iff.1 hcell
      rw [contents, List.drop_eq_nil_of_le (by simpa using hsize), List.map_nil]
    | some cell =>
      obtain ⟨items, hitems, hindex⟩ := Option.bind_eq_some_iff.1 hcell
      have hitem : ((heap.items? a).getD #[]).toList[index]? = some cell := by
        simpa [hitems] using hindex
      obtain ⟨hlt, hget⟩ := List.getElem?_eq_some_iff.1 hitem
      refine .inr ⟨cell, array a (index + 1), heap, ?_⟩
      constructor
      case next => simp only [next, hcell]
      case longer => exact .refl heap
      case given => exact gave_items fits _ (List.mem_of_getElem? hitem)
      case fits => exact ⟨fits.handles, fits.cells⟩
      case contents => rw [contents, contents, List.drop_eq_getElem_cons hlt, hget, List.map_cons]
  | hash h keys pending =>
    cases pending with
    | some cell =>
      refine .inr ⟨cell, hash h keys none, heap, ?_⟩
      constructor
      case next => rfl
      case longer => exact .refl heap
      case given => exact fits.handles _ (List.mem_cons_of_mem _ List.mem_cons_self)
      case fits => exact ⟨fits.handles.subset (List.cons_subset_cons _ (List.nil_subset _)), fits.cells⟩
      case contents => rfl
    | none =>
      cases hnext : nextKey? ((heap.entries? h).getD .empty) keys with
      | none =>
        refine .inl ⟨hash h [] none, by simp only [next, hnext], ?_⟩
        have hgone := nextKey?_eq_none_iff.1 hnext
        simp only [Heap.get?_entries] at hgone
        rw [contents, flatMap_entryContents_eq_nil hgone]
        rfl
      | some found =>
        obtain ⟨key, cell, left⟩ := found
        obtain ⟨hcell, gone, rfl, hgone⟩ := exists_of_nextKey?_eq_some hnext
        simp only [Heap.get?_entries] at hcell hgone
        have hlonger := Heap.Extends.newScalar heap (.text key)
        have hgiven := lt_size_of_hashGet? fits hcell
        -- The walk before the step and the one after it are on the same container.
        have hrest : (hash h left (some cell)).Fits heap :=
          ⟨(heap.gave_nil.cons hgiven).cons fits.lt_size, fits.cells⟩
        refine .inr ⟨(heap.newScalar (.text key)).1, hash h left (some cell),
          (heap.newScalar (.text key)).2, ?_⟩
        constructor
        case next => simp only [next, hnext]
        case longer => exact hlonger
        case given =>
          rw [Heap.id_newScalar, Heap.size_newScalar]
          exact Nat.lt_succ_self _
        case fits => exact hrest.extends hlonger
        case contents =>
          rw [contents_extends hrest hlonger, Heap.scalarContent_newScalar, contents, contents,
            List.flatMap_append, flatMap_entryContents_eq_nil hgone, List.flatMap_cons,
            entryContents, hcell]
          rfl

/-! ## A whole walk -/

/-- **Gathering first and reading as it goes come to the same.** -/
theorem gathers_take (fits : walk.Fits heap) {steps : Nat}
    (enough : (walk.contents heap).length ≤ steps) :
    heap.Gathers (walk.take heap steps).1 (walk.contents heap) (walk.take heap steps).2 ∧
      walk.read heap steps = (walk.contents heap, (walk.take heap steps).2) := by
  induction steps generalizing heap walk with
  | zero =>
    rw [List.eq_nil_of_length_eq_zero (Nat.le_zero.1 enough)]
    exact ⟨.nil heap, rfl⟩
  | succ steps ih =>
    rcases next_cases fits with ⟨rest, hnext, hnil⟩ | ⟨member, rest, heap', hands⟩
    · simp only [take, read, hnext, hnil, and_true]
      exact .nil heap
    · rw [hands.contents, List.length_cons] at enough
      obtain ⟨hgathers, hread⟩ := ih hands.fits (Nat.le_of_succ_le_succ enough)
      simp only [take, read, hands.next, hands.contents, hread, and_true]
      have hfirst : heap.Gathers [member] [heap'.scalarContent member] heap' :=
        ⟨hands.longer, heap'.gave_nil.cons hands.given, rfl⟩
      exact hfirst.append hgathers

theorem length_entryContents_le (heap : Heap) (h : Value) (key : String) :
    (entryContents heap h key).length ≤ 2 := by
  unfold entryContents
  split
  · exact Nat.le_refl 2
  · exact Nat.zero_le 2

/-- The bound on the members to come is one on what they hold. -/
theorem length_contents_le (heap : Heap) (walk : Enumerator) :
    (walk.contents heap).length ≤ walk.remaining heap := by
  cases walk with
  | array a index => simp [contents, remaining]
  | hash h keys pending =>
    have hkeys : (keys.flatMap (entryContents heap h)).length ≤ 2 * keys.length := by
      induction keys with
      | nil => exact Nat.le_refl 0
      | cons key keys ih =>
        have hentry := length_entryContents_le heap h key
        rw [List.flatMap_cons, List.length_append, List.length_cons]
        omega
    cases pending with
    | none => simpa [contents, remaining] using hkeys
    | some cell => simpa [contents, remaining, Nat.add_comm] using hkeys

end Enumerator

/-! ## Lists -/

/-- Where the items of a list come from. -/
inductive ListPart where
  /-- A value as it stands. A container counts as one item. -/
  | value (v : Value)
  /-- The members that a walk has still to come. -/
  | members (walk : Enumerator)

namespace ListPart

def handles : ListPart → List Value
  | value v => [v]
  | members walk => walk.handles

/-- What the items of a part hold. -/
def contents (heap : Heap) : ListPart → List Datum
  | value v => [heap.scalarContent v]
  | members walk => walk.contents heap

/-- What the items of a part hold, read as they come. -/
def read (heap : Heap) : ListPart → List Datum × Heap
  | value v => ([heap.scalarContent v], heap)
  | members walk => walk.read heap (walk.remaining heap)

/-- The items of a part. -/
def items (heap : Heap) : ListPart → List Value × Heap
  | value v => ([v], heap)
  | members walk => walk.drain heap

/-- What the items of all parts hold, read as they come. -/
def readAll (heap : Heap) : List ListPart → List Datum × Heap
  | [] => ([], heap)
  | part :: parts =>
    let (data, heap) := part.read heap
    let (rest, heap) := readAll heap parts
    (data ++ rest, heap)

/-- The items of all parts. -/
def gather (heap : Heap) : List ListPart → List Value × Heap
  | [] => ([], heap)
  | part :: parts =>
    let (items, heap) := part.items heap
    let (rest, heap) := gather heap parts
    (items ++ rest, heap)

variable {part : ListPart} {parts : List ListPart}

/-- The heap gave out all handles that the part can come to. -/
def Fits (heap : Heap) : ListPart → Prop
  | value v => v.id < heap.size
  | members walk => walk.Fits heap

theorem fits_of_closed (closed : heap.Closed) (given : heap.Gave part.handles) : part.Fits heap := by
  cases part with
  | value v => exact given v List.mem_cons_self
  | members walk => exact Enumerator.fits_of_closed closed given

theorem Fits.extends (fits : part.Fits heap) (h : heap.Extends heap') : part.Fits heap' := by
  cases part with
  | value v => exact Nat.lt_of_lt_of_le fits h.size
  | members walk => exact Enumerator.Fits.extends fits h

theorem contents_extends (fits : part.Fits heap) (h : heap.Extends heap') :
    part.contents heap' = part.contents heap := by
  cases part with
  | value v => exact congrArg (fun datum => [datum]) (h.scalarContent fits)
  | members walk => exact Enumerator.contents_extends fits h

theorem gathers_items (fits : part.Fits heap) :
    heap.Gathers (part.items heap).1 (part.contents heap) (part.items heap).2 ∧
      part.read heap = (part.contents heap, (part.items heap).2) := by
  cases part with
  | value v => exact ⟨.one fits, rfl⟩
  | members walk => exact Enumerator.gathers_take fits (Enumerator.length_contents_le heap walk)

/-- **All items of a list** hold what they held before the first of them was asked for. -/
theorem gathers_gather (fits : ∀ part ∈ parts, part.Fits heap) :
    heap.Gathers (gather heap parts).1 (parts.flatMap (contents heap)) (gather heap parts).2 ∧
      readAll heap parts = (parts.flatMap (contents heap), (gather heap parts).2) := by
  induction parts generalizing heap with
  | nil => exact ⟨.nil heap, rfl⟩
  | cons part parts ih =>
    obtain ⟨hitems, hread⟩ := gathers_items (fits part List.mem_cons_self)
    have hfits : ∀ part ∈ parts, part.Fits heap := fun other hother =>
      fits other (List.mem_cons_of_mem _ hother)
    obtain ⟨hrest, hreadAll⟩ := ih fun other hother => (hfits other hother).extends hitems.longer
    have hcontents : parts.flatMap (contents (part.items heap).2) = parts.flatMap (contents heap) :=
      List.flatMap_congr fun other hother => contents_extends (hfits other hother) hitems.longer
    rw [hcontents] at hrest hreadAll
    simp only [gather, readAll, hread, hreadAll, List.flatMap_cons, and_true]
    exact hitems.append hrest

end ListPart

end DynamicValues
