import DynamicValues.Proofs.World.Final
import DynamicValues.Proofs.World.Reading
import DynamicValues.World.Assignment

/-!
# What a list assignment leaves behind

A list assignment reads all items and writes then, so what is written does not depend on whether the
receiver stands in the list, lends its cells to it or is walked over in it. With what the items held
before the assignment (`ListPart.contents`) all the rest is said of the heap as it was: the receiver
keeps its kind and its class and holds the data in fresh cells (`World.Filled`), and no other body
changes (`World.Assigned`).

That needs nothing of the items but that they were handed out on the way to a longer heap
(`Heap.Gathers`), and of their texts that they are the same there.
-/

set_option autoImplicit false

namespace DynamicValues

variable {heap heap' : Heap} {world : World} {v : Value} {data : List Datum} {first : Nat}

/-! ## Texts in a longer heap -/

namespace World

theorem referenceText_extends (h : world.heap.Extends heap') {target : Value}
    (given : target.id < world.heap.size) :
    { world with heap := heap' }.referenceText target = world.referenceText target := by
  unfold referenceText Heap.referentName Heap.isReference Heap.referent? Heap.datum?
  simp only [h.body target given, h.kind given, h.content given]

theorem datumText_extends (h : world.heap.Extends heap') {datum : Datum}
    (given : world.heap.Gave datum.target?.toList) :
    { world with heap := heap' }.datumText datum = world.datumText datum := by
  cases datum with
  | ref target =>
    have hgiven : target.id < world.heap.size := given target List.mem_cons_self
    simp only [datumText, referenceText_extends h hgiven]
  | undef | int | float | text => rfl

end World

theorem mem_of_mem_inPairs {pair : Datum × Datum} (h : pair ∈ inPairs data) : pair.1 ∈ data := by
  fun_induction inPairs data with
  | case1 => cases h
  | case2 key =>
    rw [List.mem_singleton.1 h]
    exact List.mem_cons_self
  | case3 key value rest ih =>
    rcases List.mem_cons.1 h with rfl | h
    · exact List.mem_cons_self
    · exact List.mem_cons_of_mem _ (List.mem_cons_of_mem _ (ih h))

namespace World

theorem keyedPairs_eq (world : World) (data : List Datum) :
    world.keyedPairs data =
      { value := (inPairs data).map fun pair => ((world.datumText pair.1).value, pair.2)
        warnings := (if data.length % 2 = 1 then [.oddHashAssignment] else []) ++
          (inPairs data).flatMap fun pair => (world.datumText pair.1).warnings } := by
  simp only [keyedPairs, List.map_map, List.flatMap_map, Function.comp_def]

theorem keyedPairs_extends (h : world.heap.Extends heap')
    (given : ∀ datum ∈ data, world.heap.Gave datum.target?.toList) :
    { world with heap := heap' }.keyedPairs data = world.keyedPairs data := by
  have htext : ∀ pair ∈ inPairs data,
      { world with heap := heap' }.datumText pair.1 = world.datumText pair.1 := fun pair hpair =>
    datumText_extends h (given pair.1 (mem_of_mem_inPairs hpair))
  rw [keyedPairs_eq, keyedPairs_eq]
  congr 1
  · exact List.map_congr_left fun pair hpair => by rw [htext pair hpair]
  · rw [List.flatMap_congr fun pair hpair => by rw [htext pair hpair]]

end World

/-- What an item holds points at nothing that the heap did not give out. -/
theorem Heap.Closed.gave_scalarContent (closed : heap.Closed) (hv : v.id < heap.size) :
    heap.Gave (heap.scalarContent v).target?.toList := by
  have hfits := closed.fits v
  unfold Content.Fits Content.handles at hfits
  unfold scalarContent
  cases hcontent : heap.content v with
  | scalar datum position =>
    rw [hcontent] at hfits
    exact hfits
  | array | hash => exact heap.gave_nil
  | code | glob | handle | regex => exact heap.gave_nil.cons hv

theorem Enumerator.gave_contents (closed : heap.Closed) {walk : Enumerator} (fits : walk.Fits heap)
    {datum : Datum} (h : datum ∈ walk.contents heap) : heap.Gave datum.target?.toList := by
  cases walk with
  | array a index =>
    obtain ⟨cell, hcell, rfl⟩ := List.mem_map.1 h
    exact closed.gave_scalarContent (gave_items fits cell (List.mem_of_mem_drop hcell))
  | hash hash keys pending =>
    rcases List.mem_append.1 h with hdue | hentry
    · obtain ⟨cell, hcell, rfl⟩ := List.mem_map.1 hdue
      exact closed.gave_scalarContent (fits.handles cell (List.mem_cons_of_mem _ hcell))
    · obtain ⟨key, -, hentry⟩ := List.mem_flatMap.1 hentry
      unfold entryContents at hentry
      split at hentry
      · next hget =>
        rcases List.mem_pair.1 hentry with rfl | rfl
        · exact heap.gave_nil
        · exact closed.gave_scalarContent (lt_size_of_hashGet? fits hget)
      · cases hentry

theorem ListPart.gave_contents (closed : heap.Closed) {part : ListPart} (fits : part.Fits heap)
    {datum : Datum} (h : datum ∈ part.contents heap) : heap.Gave datum.target?.toList := by
  cases part with
  | value v =>
    rw [List.mem_singleton.1 h]
    exact closed.gave_scalarContent fits
  | members walk => exact Enumerator.gave_contents closed fits h

/-! ## Refilling one body -/

namespace Heap

/-- One body has another content and keeps its class, and the other bodies are as they were. -/
structure Refilled (heap : Heap) (v : Value) (content : Content) (heap' : Heap) : Prop where
  size : heap.size ≤ heap'.size
  content : heap'.content v = content
  blessing : heap'.blessing v = heap.blessing v
  others : ∀ w : Value, w.id < heap.size → w ≠ v → heap'.body w = heap.body w

theorem Extends.refilled (h : heap.Extends heap') (hv : v.id < heap.size) (content : Content) :
    heap.Refilled v content (heap'.setContent v content) where
  size := by
    unfold setContent
    rw [size_setBody]
    exact h.size
  content := content_setContent_self (Nat.lt_of_lt_of_le hv h.size)
  blessing := by
    unfold Heap.blessing setContent
    rw [body_setBody_self (Nat.lt_of_lt_of_le hv h.size), h.body v hv]
  others := by
    intro w hw hne
    unfold setContent
    rw [body_setBody_ne hne.symm, h.body w hw]

/-- Cells that came later than the receiver are none of the bodies that are refilled. -/
theorem body_setContent_of_lt (hv : v.id < first) {c : Value} (hc : first ≤ c.id)
    (content : Content) : (heap.setContent v content).body c = heap.body c := by
  refine body_setBody_ne fun hvc => ?_
  rw [hvc] at hv
  exact Nat.not_lt.2 hc hv

theorem Lists.setContent {cells : List Value} (h : heap.Lists first cells data) (hv : v.id < first)
    (content : Content) : (heap.setContent v content).Lists first cells data :=
  h.keep (Nat.le_of_eq (size_setBody _ _ _).symm) fun c hc =>
    body_setContent_of_lt hv (h.fresh c hc) content

theorem Tabulates.setContent {table : Table Value} {pairs : List (String × Datum)}
    (h : heap.Tabulates first table pairs) (hv : v.id < first) (content : Content) :
    (heap.setContent v content).Tabulates first table pairs :=
  h.keep (Nat.le_of_eq (size_setBody _ _ _).symm) fun c hc =>
    body_setContent_of_lt hv (h.fresh c hc) content

theorem assign_eq_setContent (h : heap.kind v = .scalar) (datum : Datum) :
    heap.assign v datum = heap.setContent v (.scalar datum none) := by
  obtain ⟨old, position, hcontent⟩ := Content.eq_scalar_of_kind h
  unfold assign
  rw [hcontent]

theorem setItems_eq_setContent (h : heap.kind v = .array) (items : Array Value) :
    heap.setItems v items = heap.setContent v (.array items) := by
  obtain ⟨old, hcontent⟩ := Content.eq_array_of_kind h
  unfold setItems
  rw [hcontent]

theorem setEntries_eq_setContent (h : heap.kind v = .hash) (entries : Table Value) :
    heap.setEntries v entries = heap.setContent v (.hash entries) := by
  obtain ⟨old, hcontent⟩ := Content.eq_hash_of_kind h
  unfold setEntries
  rw [hcontent]

end Heap

/-! ## Warnings -/

namespace World

/-- The warnings of an assignment: only keys are turned into texts. -/
def assignmentWarnings (v : Value) (data : List Datum) (world : World) : List Warning :=
  if world.heap.kind v = .hash then (world.keyedPairs data).warnings else []

theorem oddHashAssignment_notMem_datumText (world : World) (datum : Datum) :
    .oddHashAssignment ∉ (world.datumText datum).warnings := by
  cases datum <;> simp [datumText]

/-- **An odd number of elements is reported once**, and only of a hash. -/
theorem count_oddHashAssignment (world : World) (v : Value) (data : List Datum) :
    (world.assignmentWarnings v data).count .oddHashAssignment =
      if world.heap.kind v = .hash ∧ data.length % 2 = 1 then 1 else 0 := by
  unfold assignmentWarnings
  by_cases hkind : world.heap.kind v = .hash
  · have htexts : .oddHashAssignment ∉ (inPairs data).flatMap fun pair =>
        (world.datumText pair.1).warnings := by
      intro hmem
      obtain ⟨pair, -, hmem⟩ := List.mem_flatMap.1 hmem
      exact world.oddHashAssignment_notMem_datumText pair.1 hmem
    rw [if_pos hkind, keyedPairs_eq, List.count_append, List.count_eq_zero_of_not_mem htexts]
    by_cases hodd : data.length % 2 = 1
    · simp [hkind, hodd]
    · simp [hodd]
  · simp [hkind]

/-! ## Assigned lists -/

/-- What a receiver of a kind holds after the assignment, in cells that are new. -/
inductive Filled (world : World) (data : List Datum) (after : Heap) : Kind → Content → Prop where
  | scalar : Filled world data after .scalar (.scalar (data.getLast?.getD .undef) none)
  | array {cells : List Value} (lists : after.Lists world.heap.size cells data) :
      Filled world data after .array (.array cells.toArray)
  | hash {entries : Table Value}
      (tabulates : after.Tabulates world.heap.size entries (world.keyedPairs data).value) :
      Filled world data after .hash (.hash entries)

theorem Filled.cells_new {kind : Kind} {content : Content}
    (filled : world.Filled data heap' kind content) : ∀ c ∈ content.cells, world.heap.size ≤ c.id := by
  intro c hc
  cases filled with
  | scalar => cases hc
  | array lists => exact lists.fresh c hc
  | hash tabulates => exact tabulates.fresh c hc

theorem Filled.cells_given {kind : Kind} {content : Content}
    (filled : world.Filled data heap' kind content) : heap'.Gave content.cells := by
  cases filled with
  | scalar => exact heap'.gave_nil
  | array lists => exact lists.given
  | hash tabulates => exact tabulates.given

theorem Filled.cells_nodup {kind : Kind} {content : Content}
    (filled : world.Filled data heap' kind content) : content.cells.Nodup := by
  cases filled with
  | scalar => exact List.nodup_nil
  | array lists => exact lists.nodup
  | hash tabulates => exact tabulates.nodup

/-- A list was assigned: this is all that changed. -/
structure Assigned (world : World) (v : Value) (data : List Datum) (after : World) : Prop where
  size : world.heap.size ≤ after.heap.size
  filled : world.Filled data after.heap (world.heap.kind v) (after.heap.content v)
  blessing : after.heap.blessing v = world.heap.blessing v
  others : ∀ w : Value, w.id < world.heap.size → w ≠ v → after.heap.body w = world.heap.body w
  /-- The cells from before are let go and keep what they hold. -/
  detached : ∀ c ∈ (world.heap.content v).cells,
    c ∉ (after.heap.content v).cells ∧ after.heap.body c = world.heap.body c
  /-- A hash holds what a fresh one made of the pairs would hold. -/
  asMade : world.heap.kind v = .hash →
    let made := world.heap.newHash (world.keyedPairs data).value
    ∀ key, (after.heap.hashGet? v key).map after.heap.body =
      (made.2.hashGet? made.1 key).map made.2.body
  warned : after.log = (world.warnAll (world.assignmentWarnings v data)).log
  rest : after = { world with heap := after.heap, log := after.log }

theorem Filled.asMade {content : Content} (filled : world.Filled data heap' .hash content)
    (hcontent : heap'.content v = content) (key : String) :
    let made := world.heap.newHash (world.keyedPairs data).value
    (heap'.hashGet? v key).map heap'.body = (made.2.hashGet? made.1 key).map made.2.body := by
  intro made
  obtain ⟨entries, hmade, htable⟩ := world.heap.tabulates_newHash (world.keyedPairs data).value
  cases filled with
  | hash tabulates =>
    rw [Heap.hashGet?_of_content hcontent, Heap.hashGet?_of_content hmade]
    exact (tabulates.bodies key).trans (htable.bodies key).symm

theorem Filled.assigned {content : Content} {log : WarningLog}
    (filled : world.Filled data heap' (world.heap.kind v) content)
    (refilled : world.heap.Refilled v content heap')
    (scalars : ∀ c ∈ (world.heap.content v).cells, world.heap.IsScalar c)
    (hlog : log = (world.warnAll (world.assignmentWarnings v data)).log) :
    world.Assigned v data { world with heap := heap', log } where
  size := refilled.size
  filled := by
    rw [refilled.content]
    exact filled
  blessing := refilled.blessing
  others := refilled.others
  detached := by
    intro c hc
    have hlt := (scalars c hc).lt_size
    rw [refilled.content]
    refine ⟨fun hnew => Nat.not_lt.2 (filled.cells_new c hnew) hlt, refilled.others c hlt ?_⟩
    -- A cell is a scalar, and a scalar has no cells.
    rintro rfl
    obtain ⟨datum, position, hscalar⟩ := Content.eq_scalar_of_kind (scalars c hc).kind_eq
    rw [hscalar] at hc
    cases hc
  asMade := by
    intro hkind made key
    rw [hkind] at filled
    exact filled.asMade refilled.content key
  warned := hlog
  rest := rfl

/-! ### One receiver kind at a time -/

section Receivers

variable (longer : world.heap.Extends heap') (hv : v.id < world.heap.size)
  (scalars : ∀ c ∈ (world.heap.content v).cells, world.heap.IsScalar c)
include longer hv scalars

theorem assigned_scalar (hkind : world.heap.kind v = .scalar) :
    world.Assigned v data
      { world with heap := heap'.assign v (data.getLast?.getD .undef) } := by
  rw [Heap.assign_eq_setContent ((longer.kind hv).trans hkind)]
  refine Filled.assigned ?_ (longer.refilled hv _) scalars ?_
  · rw [hkind]
    exact .scalar
  · simp [assignmentWarnings, hkind, warnAll]

theorem assigned_array (hkind : world.heap.kind v = .array) :
    world.Assigned v data { world with heap := heap'.assignArray v data } := by
  have hcells := (Heap.lists_newCells heap' data).mono longer.size
  have hextends := longer.trans (.newCells heap' data)
  unfold Heap.assignArray
  simp only [Heap.setItems_eq_setContent ((hextends.kind hv).trans hkind)]
  refine Filled.assigned ?_ (hextends.refilled hv _) scalars ?_
  · rw [hkind]
    exact .array (hcells.setContent hv _)
  · simp [assignmentWarnings, hkind, warnAll]

theorem assigned_hash (hkind : world.heap.kind v = .hash) :
    world.Assigned v data
      { world with
        heap := heap'.assignHash v (world.keyedPairs data).value
        log := (world.warnAll (world.keyedPairs data).warnings).log } := by
  have htable := (Heap.tabulates_newEntries heap' (world.keyedPairs data).value).mono longer.size
  have hextends := longer.trans (.newEntries heap' .empty (world.keyedPairs data).value)
  unfold Heap.assignHash
  simp only [Heap.setEntries_eq_setContent ((hextends.kind hv).trans hkind)]
  refine Filled.assigned ?_ (hextends.refilled hv _) scalars ?_
  · rw [hkind]
    exact .hash (htable.setContent hv _)
  · simp [assignmentWarnings, hkind]

end Receivers

end World

namespace Action

/-- **A list assignment** writes what its items hold, whatever they are. -/
theorem assign_of_gathers {items : List Value} (gathers : world.heap.Gathers items data heap')
    (hv : v.id < world.heap.size)
    (scalars : ∀ c ∈ (world.heap.content v).cells, world.heap.IsScalar c)
    (texts : { world with heap := heap' }.keyedPairs data = world.keyedPairs data) :
    if world.heap.kind v ∈ [.scalar, .array, .hash] then
      ∃ after, assign v items { world with heap := heap' } = .ok items.length after ∧
        world.Assigned v data after
    else assign v items { world with heap := heap' } =
      .error (.cannotAssignList (world.heap.kind v)) { world with heap := heap' } := by
  have longer := gathers.longer
  have hkind : heap'.kind v = world.heap.kind v := longer.kind hv
  unfold assign
  simp only [gathers.contents, gathers.length_eq, hkind]
  cases hreceiver : world.heap.kind v with
  | scalar =>
    rw [if_pos (by simp)]
    exact ⟨_, rfl, World.assigned_scalar longer hv scalars hreceiver⟩
  | array =>
    rw [if_pos (by simp)]
    exact ⟨_, rfl, World.assigned_array longer hv scalars hreceiver⟩
  | hash =>
    simp only [texts, World.heap_warnAll]
    rw [if_pos (by simp), World.warnAll_heap, World.warnAll_eq]
    exact ⟨_, rfl, World.assigned_hash longer hv scalars hreceiver⟩
  | code | glob | handle | regex => rw [if_neg (by simp)]

/-- **A list assignment reads all items before it writes.** The parts of the list may be the receiver,
cells of it or walks over it, and any of them may come more than once. -/
theorem assign_reads_before_writing (closed : world.heap.Closed) (hv : v.id < world.heap.size)
    (scalars : ∀ c ∈ (world.heap.content v).cells, world.heap.IsScalar c) {parts : List ListPart}
    (given : ∀ part ∈ parts, world.heap.Gave part.handles) :
    let data := parts.flatMap (ListPart.contents world.heap)
    let gathered := ListPart.gather world.heap parts
    let before := { world with heap := gathered.2 }
    ListPart.readAll world.heap parts = (data, gathered.2) ∧
      (world.assignmentWarnings v data).count .oddHashAssignment =
        (if world.heap.kind v = .hash ∧ gathered.1.length % 2 = 1 then 1 else 0) ∧
      if world.heap.kind v ∈ [.scalar, .array, .hash] then
        ∃ after, assign v gathered.1 before = .ok gathered.1.length after ∧
          world.Assigned v data after
      else assign v gathered.1 before = .error (.cannotAssignList (world.heap.kind v)) before := by
  intro data gathered before
  have fits : ∀ part ∈ parts, part.Fits world.heap := fun part hpart =>
    ListPart.fits_of_closed closed (given part hpart)
  obtain ⟨hgathers, hread⟩ := ListPart.gathers_gather fits
  have hdata : ∀ datum ∈ data, world.heap.Gave datum.target?.toList := by
    intro datum hdatum
    obtain ⟨part, hpart, hdatum⟩ := List.mem_flatMap.1 hdatum
    exact ListPart.gave_contents closed (fits part hpart) hdatum
  refine ⟨hread, ?_, ?_⟩
  · rw [hgathers.length_eq]
    exact world.count_oddHashAssignment v data
  · exact assign_of_gathers hgathers hv scalars (World.keyedPairs_extends hgathers.longer hdata)

/-- A hash is assigned its own members and, behind them, one of its cells. -/
theorem assign_reads_before_writing_ownMembers :
    let world : World := { settings := {}, heap := Enumerator.threeEntries, classes := .empty 100 }
    let parts := [.members (.hash ⟨3⟩ ["a", "b", "c"] none), .value ⟨1⟩]
    let gathered := ListPart.gather world.heap parts
    gathered.1 = [⟨4⟩, ⟨0⟩, ⟨5⟩, ⟨1⟩, ⟨6⟩, ⟨2⟩, ⟨1⟩] ∧
      ∃ after, assign ⟨3⟩ gathered.1 { world with heap := gathered.2 } = .ok 7 after ∧
        world.Assigned ⟨3⟩
          [.text "a", .int 1, .text "b", .int 2, .text "c", .int 3, .int 2] after := by
  intro world parts gathered
  have hcells : (world.heap.content ⟨3⟩).cells = [⟨0⟩, ⟨1⟩, ⟨2⟩] := rfl
  have scalars : ∀ c ∈ (world.heap.content ⟨3⟩).cells, world.heap.IsScalar c := by
    intro c hc
    simp only [hcells, List.mem_cons, List.not_mem_nil, or_false] at hc
    rcases hc with rfl | rfl | rfl <;> exact ⟨by decide, rfl⟩
  have given : ∀ part ∈ parts, world.heap.Gave part.handles := by
    intro part hpart
    simp only [parts, List.mem_cons, List.not_mem_nil, or_false] at hpart
    rcases hpart with rfl | rfl <;> exact (Heap.gave_nil _).cons (by decide)
  have closed : world.heap.Closed := by decide
  obtain ⟨-, -, hassign⟩ := assign_reads_before_writing closed (by decide) scalars given
  rw [if_pos (by decide)] at hassign
  exact ⟨rfl, hassign⟩

end Action

end DynamicValues
