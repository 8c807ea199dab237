import DynamicValues.World.Members

/-!
# Walks over containers that change

Between two calls for the next member anything may happen to the heap, so a row of calls is told by
what happens before each of them (`Enumerator.calls`). Over an array the calls share nothing but a
number, that of the members yielded so far; the next call looks at that index of the array as it then
is.

Over a hash they share the keys that are left. Each key of the beginning has its **turn** at one call:
that call passes over the key, for it is gone, or yields it. The turns that have come and the keys that
are left make up the keys of the beginning, in their order, which no call changes. After a key comes
its cell, at the call that follows, whatever has become of the key meanwhile. `Enumerator.Turns` is the
relation of the calls to the turns, with a case for each kind of call.
-/

set_option autoImplicit false

namespace DynamicValues

/-! ## Keys -/

theorem Table.nodup_keys {α : Type} (table : Table α) : table.keys.Nodup := by
  refine List.pairwise_map.2 (table.ascending.imp ?_)
  intro a b hlt heq
  rw [heq] at hlt
  exact String.lt_irrefl _ hlt

namespace Heap

variable {heap : Heap} {v : Value} {walk : Enumerator}

theorem get?_entries (heap : Heap) (hash : Value) (key : String) :
    ((heap.entries? hash).getD .empty).get? key = heap.hashGet? hash key := by
  unfold hashGet?
  cases heap.entries? hash <;> rfl

theorem hashGet?_of_content {entries : Table Value} (h : heap.content v = .hash entries)
    (key : String) : heap.hashGet? v key = entries.get? key := by
  unfold hashGet? entries?
  rw [h]
  rfl

/-- Nothing is at an index past the end. -/
theorem arrayGet?_eq_none_iff {array : Value} {index : Nat} :
    heap.arrayGet? array index = none ↔ ((heap.items? array).getD #[]).size ≤ index := by
  unfold arrayGet?
  cases heap.items? array <;> simp

/-- A walk at its beginning. The keys of a hash may come in any order. -/
inductive Begins (heap : Heap) (v : Value) : Enumerator → Prop where
  | array {items : Array Value} (h : heap.content v = .array items) : Begins heap v (.array v 0)
  | hash {entries : Table Value} {keys : List String} (h : heap.content v = .hash entries)
      (perm : keys.Perm entries.keys) : Begins heap v (.hash v keys none)

theorem begins_members (h : heap.members v = .ok walk) : heap.Begins v walk := by
  unfold members at h
  split at h
  · next hcontent =>
    cases h
    exact .array hcontent
  · next hcontent =>
    cases h
    exact .hash hcontent (.refl _)
  · cases h

end Heap

namespace Enumerator

/-! ## One key of a table -/

/-- The key that is found is the first one that is there. -/
theorem exists_of_nextKey?_eq_some {entries : Table Value} {keys left : List String} {key : String}
    {cell : Value} (h : nextKey? entries keys = some (key, cell, left)) :
    entries.get? key = some cell ∧
      ∃ gone, keys = gone ++ key :: left ∧ ∀ k ∈ gone, entries.get? k = none := by
  induction keys with
  | nil => cases h
  | cons k keys ih =>
    rw [nextKey?] at h
    cases hk : entries.get? k with
    | some found =>
      rw [hk] at h
      cases h
      exact ⟨hk, [], rfl, fun _ hmem => absurd hmem List.not_mem_nil⟩
    | none =>
      rw [hk] at h
      obtain ⟨hcell, gone, rfl, hgone⟩ := ih h
      refine ⟨hcell, k :: gone, rfl, ?_⟩
      intro other hother
      rcases List.mem_cons.1 hother with rfl | hother
      · exact hk
      · exact hgone other hother

theorem nextKey?_eq_none_iff {entries : Table Value} {keys : List String} :
    nextKey? entries keys = none ↔ ∀ k ∈ keys, entries.get? k = none := by
  induction keys with
  | nil => simp [nextKey?]
  | cons k keys ih =>
    rw [nextKey?]
    cases hk : entries.get? k with
    | some found => simp [hk]
    | none => simp [hk, ih]

/-! ## Rows of calls -/

/-- One call for the next member: the heap it finds, its answer, and the heap it leaves. -/
structure Call where
  before : Heap
  yielded : Option Value
  after : Heap

/-- A row of calls. Before each of them the heap changes, in any way. -/
def calls (walk : Enumerator) (heap : Heap) : List (Heap → Heap) → List Call
  | [] => []
  | change :: changes =>
    let before := change heap
    let (yielded, walk, after) := walk.next before
    ⟨before, yielded, after⟩ :: calls walk after changes

/-- How many of the calls yielded a member. -/
def yields (calls : List Call) : Nat := calls.countP (·.yielded.isSome)

theorem yields_cons (call : Call) (calls : List Call) :
    yields (call :: calls) = yields calls + call.yielded.toList.length := by
  unfold yields
  cases h : call.yielded <;> simp [h]

/-! ## Arrays -/

/-- **A call on an array** looks at the index that has the number of the members yielded so far. -/
theorem yielded_array {a : Value} {index : Nat} {heap : Heap} {changes : List (Heap → Heap)} {i : Nat}
    {call : Call} (h : ((array a index).calls heap changes)[i]? = some call) :
    call.yielded =
      call.before.arrayGet? a (index + yields (((array a index).calls heap changes).take i)) := by
  induction changes generalizing index heap i with
  | nil => cases h
  | cons change changes ih =>
    simp only [calls, next] at h ⊢
    cases hcell : (change heap).arrayGet? a index with
    | some cell =>
      simp only [hcell] at h ⊢
      cases i with
      | zero =>
        cases h
        exact hcell.symm
      | succ i =>
        rw [List.take_succ_cons, yields_cons]
        simpa [Nat.add_assoc, Nat.add_comm] using ih h
    | none =>
      simp only [hcell] at h ⊢
      cases i with
      | zero =>
        cases h
        exact hcell.symm
      | succ i =>
        rw [List.take_succ_cons, yields_cons]
        simpa using ih h

/-! ## Hashes -/

/-- The call passes over keys that are gone and yields one that is there, in a fresh scalar. -/
structure Call.YieldsKey (call : Call) (hash : Value) (gone : List String) (key : String)
    (cell : Value) : Prop where
  gone : ∀ k ∈ gone, call.before.hashGet? hash k = none
  there : call.before.hashGet? hash key = some cell
  yielded : call.yielded = some (call.before.newScalar (.text key)).1
  after : call.after = (call.before.newScalar (.text key)).2

/-- The call passes over keys that are gone and yields nothing. -/
structure Call.Ends (call : Call) (hash : Value) (gone : List String) : Prop where
  gone : ∀ k ∈ gone, call.before.hashGet? hash k = none
  yielded : call.yielded = none
  after : call.after = call.before

/-- The calls of a walk over a hash with the keys whose turn comes at each of them; to begin with, the
keys that are left and the cell that is due. -/
inductive Turns (hash : Value) :
    List String → Option Value → List Call → List (List String) → Prop where
  | done {left : List String} {due : Option Value} : Turns hash left due [] []
  | cell {left : List String} {cell : Value} {call : Call} {calls : List Call}
      {turns : List (List String)} (yielded : call.yielded = some cell)
      (rest : Turns hash left none calls turns) :
      Turns hash left (some cell) (call :: calls) ([] :: turns)
  | key {gone left : List String} {key : String} {cell : Value} {call : Call} {calls : List Call}
      {turns : List (List String)} (yields : call.YieldsKey hash gone key cell)
      (rest : Turns hash left (some cell) calls turns) :
      Turns hash (gone ++ key :: left) none (call :: calls) ((gone ++ [key]) :: turns)
  | spent {left : List String} {call : Call} {calls : List Call} {turns : List (List String)}
      (ends : call.Ends hash left) (rest : Turns hash [] none calls turns) :
      Turns hash left none (call :: calls) (left :: turns)

/-- **Every row of calls on a hash goes by turns.** -/
theorem exists_turns (h : Value) (left : List String) (due : Option Value) (heap : Heap)
    (changes : List (Heap → Heap)) :
    ∃ turns, Turns h left due ((hash h left due).calls heap changes) turns := by
  induction changes generalizing left due heap with
  | nil => exact ⟨[], .done⟩
  | cons change changes ih =>
    simp only [calls]
    cases due with
    | some cell =>
      obtain ⟨turns, hrest⟩ := ih left none (change heap)
      exact ⟨_, .cell rfl hrest⟩
    | none =>
      simp only [next]
      cases hnext : nextKey? (((change heap).entries? h).getD .empty) left with
      | some found =>
        obtain ⟨key, cell, left⟩ := found
        obtain ⟨hcell, gone, rfl, hgone⟩ := exists_of_nextKey?_eq_some hnext
        simp only [Heap.get?_entries] at hcell hgone
        obtain ⟨turns, hrest⟩ := ih left (some cell) ((change heap).newScalar (.text key)).2
        exact ⟨_, .key ⟨hgone, hcell, rfl, rfl⟩ hrest⟩
      | none =>
        have hgone := nextKey?_eq_none_iff.1 hnext
        simp only [Heap.get?_entries] at hgone
        obtain ⟨turns, hrest⟩ := ih [] none (change heap)
        exact ⟨_, .spent ⟨hgone, rfl, rfl⟩ hrest⟩

namespace Turns

variable {h : Value} {left : List String} {due : Option Value} {calls : List Call}
  {turns : List (List String)}

theorem length_eq (hturns : Turns h left due calls turns) : turns.length = calls.length := by
  induction hturns with
  | done => rfl
  | cell _ _ ih | key _ _ ih | spent _ _ ih => simp [ih]

/-- The cell that is due is yielded by the first call. -/
theorem yielded_due {cell : Value} (hturns : Turns h left (some cell) calls turns) {call : Call}
    (hcall : calls[0]? = some call) : call.yielded = some cell := by
  cases hturns with
  | done => cases hcall
  | cell yielded _ =>
    cases hcall
    exact yielded

/-- **The calls from one on.** The keys that have had their turn and the keys that are left are those
of the beginning, and a cell is due after an odd number of members. -/
theorem drop (hturns : Turns h left due calls turns) (i : Nat) :
    ∃ left' due', Turns h left' due' (calls.drop i) (turns.drop i) ∧
      (turns.take i).flatten ++ left' = left ∧
      (yields (calls.take i) + due.toList.length) % 2 = due'.toList.length := by
  have hdue : due.toList.length < 2 := by cases due <;> simp
  induction hturns generalizing i with
  | @done left due =>
    refine ⟨left, due, by simp [Turns.done], by simp, ?_⟩
    simp [yields, Nat.mod_eq_of_lt hdue]
  | @cell left cell call calls turns yielded rest ih =>
    cases i with
    | zero => exact ⟨left, some cell, .cell yielded rest, rfl, rfl⟩
    | succ i =>
      obtain ⟨left', due', hrest, hkeys, hparity⟩ := ih i (by simp)
      refine ⟨left', due', hrest, by simpa using hkeys, ?_⟩
      rw [List.take_succ_cons, yields_cons, yielded]
      simp only [Option.toList_some, Option.toList_none, List.length_singleton,
        List.length_nil] at hparity ⊢
      omega
  | @key gone left key cell call calls turns hyields rest ih =>
    cases i with
    | zero => exact ⟨_, none, .key hyields rest, rfl, rfl⟩
    | succ i =>
      obtain ⟨left', due', hrest, hkeys, hparity⟩ := ih i (by simp)
      refine ⟨left', due', hrest, by simpa using hkeys, ?_⟩
      rw [List.take_succ_cons, yields_cons, hyields.yielded]
      simpa using hparity
  | @spent left call calls turns hends rest ih =>
    cases i with
    | zero => exact ⟨left, none, .spent hends rest, rfl, rfl⟩
    | succ i =>
      obtain ⟨left', due', hrest, hkeys, hparity⟩ := ih i (by simp)
      obtain ⟨hturned, rfl⟩ := List.append_eq_nil_iff.1 hkeys
      refine ⟨[], due', hrest, by simp [hturned], ?_⟩
      rw [List.take_succ_cons, yields_cons, hends.yielded]
      simpa using hparity

/-- The turns come in the order of the keys, and no key has two. -/
theorem flatten_prefix (hturns : Turns h left due calls turns) : turns.flatten <+: left := by
  obtain ⟨left', -, -, hkeys, -⟩ := hturns.drop turns.length
  rw [List.take_length] at hkeys
  exact ⟨left', hkeys⟩

/-- **Keys and cells alternate.** After an odd number of members the cell is yielded that is due.
After an even number it is the turn of some keys: the last of them is yielded and its cell is due, or
the walk is over, for all keys have had their turn. -/
theorem call_cases (hturns : Turns h left none calls turns) {i : Nat} {call : Call}
    (hcall : calls[i]? = some call) :
    ∃ turn, turns[i]? = some turn ∧
      if yields (calls.take i) % 2 = 0 then
        (∃ gone key cell, turn = gone ++ [key] ∧ call.YieldsKey h gone key cell ∧
          ∀ following, calls[i + 1]? = some following → following.yielded = some cell) ∨
        (call.Ends h turn ∧ (turns.take (i + 1)).flatten = left)
      else turn = [] ∧ call.yielded.isSome = true := by
  obtain ⟨left', due, hrest, hkeys, hparity⟩ := hturns.drop i
  simp only [Option.toList_none, List.length_nil, Nat.add_zero] at hparity
  obtain ⟨hi, rfl⟩ := List.getElem?_eq_some_iff.1 hcall
  rw [List.drop_eq_getElem_cons hi] at hrest
  generalize hlater : turns.drop i = later at hrest
  have hturn (turn : List String) (turns' : List (List String)) (h : turns.drop i = turn :: turns') :
      turns[i]? = some turn := by
    rw [← List.head?_drop, h]
    rfl
  cases hrest with
  | cell yielded _ =>
    refine ⟨[], hturn _ _ hlater, ?_⟩
    simp [hparity, yielded]
  | @key gone _ key cell _ _ _ hyields rest =>
    refine ⟨gone ++ [key], hturn _ _ hlater, ?_⟩
    rw [if_pos (by simpa using hparity)]
    refine .inl ⟨gone, key, cell, rfl, hyields, fun following hfollowing => ?_⟩
    exact rest.yielded_due (by rwa [List.getElem?_drop])
  | spent hends _ =>
    have hspent := hturn _ _ hlater
    refine ⟨left', hspent, ?_⟩
    rw [if_pos (by simpa using hparity)]
    refine .inr ⟨hends, ?_⟩
    rw [List.take_add_one, hspent, Option.toList_some, List.flatten_append, List.flatten_singleton]
    exact hkeys

end Turns

/-! ## The contract -/

/-- **What a walk keeps to, whatever happens to its container between the calls.**

On an array the next member is the cell at the index that has the number of the members yielded so far,
and there is none exactly if the array is not longer than that.

On a hash each key of the beginning has one turn at most, in order. After an even number of members it is
the turn of some keys: those that are gone at this moment are passed over, and one that is there is
yielded, in a fresh scalar, or all keys have had their turn. After an odd number of members a cell is
yielded, the one that was under the key when the key was yielded. -/
theorem calls_keep_contract {heap : Heap} {v : Value} {walk : Enumerator}
    (begins : heap.Begins v walk) (changes : List (Heap → Heap)) :
    let calls := walk.calls heap changes
    (walk = .array v 0 → ∀ i call, calls[i]? = some call →
      call.yielded = call.before.arrayGet? v (yields (calls.take i)) ∧
      (call.yielded = none ↔
        ((call.before.items? v).getD #[]).size ≤ yields (calls.take i))) ∧
    ∀ keys, walk = .hash v keys none →
      ∃ turns : List (List String), turns.length = calls.length ∧
        turns.flatten <+: keys ∧ turns.flatten.Nodup ∧
        ∀ i call, calls[i]? = some call → ∃ turn, turns[i]? = some turn ∧
          if yields (calls.take i) % 2 = 0 then
            (∃ gone key cell, turn = gone ++ [key] ∧ call.YieldsKey v gone key cell ∧
              ∀ following, calls[i + 1]? = some following → following.yielded = some cell) ∨
            (call.Ends v turn ∧ (turns.take (i + 1)).flatten = keys)
          else turn = [] ∧ call.yielded.isSome = true := by
  intro calls
  constructor
  · rintro rfl i call hcall
    have hyielded := yielded_array hcall
    rw [Nat.zero_add] at hyielded
    refine ⟨hyielded, ?_⟩
    rw [hyielded]
    exact Heap.arrayGet?_eq_none_iff
  · rintro keys rfl
    obtain ⟨turns, hturns⟩ := exists_turns v keys none heap changes
    have hnodup : keys.Nodup := by
      cases begins with
      | hash _ perm => exact perm.nodup_iff.2 (Table.nodup_keys _)
    refine ⟨turns, hturns.length_eq, hturns.flatten_prefix, ?_, fun i call hcall => ?_⟩
    · exact hnodup.sublist hturns.flatten_prefix.sublist
    · exact hturns.call_cases hcall

/-- A hash with three entries. -/
def threeEntries : Heap := (Heap.empty.newHash [("a", .int 1), ("b", .int 2), ("c", .int 3)]).2

def removing (key : String) (heap : Heap) : Heap := (heap.hashRemove ⟨3⟩ key).2

/-- The first key is taken out after it was yielded, and its cell comes all the same. The second one is
taken out before its turn and is passed over. -/
theorem calls_of_removed_keys :
    let calls := (hash ⟨3⟩ ["a", "b", "c"] none).calls threeEntries
      [id, removing "a", removing "b", id, id]
    calls.map (·.yielded) = [some ⟨4⟩, some ⟨0⟩, some ⟨5⟩, some ⟨2⟩, none] ∧
      ∃ turns : List (List String), turns.length = 5 ∧ turns.flatten <+: ["a", "b", "c"] ∧
        ∃ gone key cell, turns[2]? = some (gone ++ [key]) ∧
          ∀ call, calls[2]? = some call → call.YieldsKey ⟨3⟩ gone key cell := by
  intro calls
  have hyielded : calls.map (·.yielded) = [some ⟨4⟩, some ⟨0⟩, some ⟨5⟩, some ⟨2⟩, none] := rfl
  refine ⟨hyielded, ?_⟩
  have begins : threeEntries.Begins ⟨3⟩ (hash ⟨3⟩ ["a", "b", "c"] none) :=
    Heap.begins_members rfl
  obtain ⟨turns, hlength, hprefix, -, hcalls⟩ :=
    (calls_keep_contract begins [id, removing "a", removing "b", id, id]).2 _ rfl
  refine ⟨turns, hlength, hprefix, ?_⟩
  obtain ⟨turn, hturn, hcase⟩ := hcalls 2 _ rfl
  rw [if_pos (by rfl)] at hcase
  rcases hcase with ⟨gone, key, cell, rfl, hyields, -⟩ | ⟨hends, -⟩
  · refine ⟨gone, key, cell, hturn, ?_⟩
    intro call hcall
    cases hcall
    exact hyields
  · exact absurd hends.yielded (by simp)

end Enumerator

end DynamicValues
