import DynamicValues.Proofs.Pattern.Empty
import DynamicValues.Proofs.World.Final
import DynamicValues.Proofs.World.Text
import DynamicValues.World.Match

/-!
# Streams threaded through a match position

A stream of global matches can be driven in two ways: by **one state** that is kept from step to step
(`Action.keptLoop`), or by a fresh state for each step that starts from the match position of the
scalar and is written back to it afterwards (`Action.threadedLoop`).

Only the position goes through the scalar. The note that the last match was empty does not, so the
two loops agree **up to the first empty match** and, if there is none, up to the step that fails
(`threadedLoop_agrees`). After an empty match they part: the kept state steps past it, while the
threaded loop may find it again, and if it was found where the search began it is found for ever
(`threadedLoop_repeats`).

The report of a step is its captures if it matched. Both loops stop at the first step that fails.
Nothing is assumed of the searcher but that it is a function of the text and the place.
-/

set_option autoImplicit false

namespace DynamicValues

/-! ## The loops -/

namespace Action

/-- The first steps of a stream that is driven by one state. A global match of a pattern is a
`streamMatch` with the searcher of the pattern, see `matchGlobal`. -/
def keptLoop (searcher : Searcher) (keepPosition : Bool) (v : Value) :
    (steps : Nat) → MatchState → Action (List (Option Captures))
  | 0, _ => return []
  | steps + 1, state => do
    let (outcome, state) ← streamMatch searcher keepPosition v .scalar state
    if outcome.isMatch then
      return some state.captures :: (← keptLoop searcher keepPosition v steps state)
    else return [none]

/-- The first steps of a stream that is threaded through the match position of a value. -/
def threadedLoop (searcher : Searcher) (keepPosition : Bool) (v : Value) :
    (steps : Nat) → Action (List (Option Captures))
  | 0 => return []
  | steps + 1 => do
    let start := MatchState.ofValue (← get).heap v
    let (outcome, state) ← streamMatch searcher keepPosition v .scalar start
    onHeap fun heap => ((), state.commit heap v)
    if outcome.isMatch then
      return some state.captures :: (← threadedLoop searcher keepPosition v steps)
    else return [none]

end Action

/-! ## Their reports on one subject -/

namespace Searcher

variable (searcher : Searcher) (subject : Subject) (keepPosition : Bool)

def keptReports : (steps : Nat) → MatchState → List (Option Captures)
  | 0, _ => []
  | steps + 1, state =>
    match searcher.globalStep subject keepPosition state with
    | (true, next) => some next.captures :: keptReports steps next
    | (false, _) => [none]

def threadedReports : (steps : Nat) → (position : Option Nat) → List (Option Captures)
  | 0, _ => []
  | steps + 1, position =>
    match searcher.globalStep subject keepPosition (.ofPosition position) with
    | (true, next) => some next.captures :: threadedReports steps next.position
    | (false, _) => [none]

end Searcher

/-! ## One step -/

/-- A state after a match that was found from `state`. -/
structure MatchState.Moved (state : MatchState) (found : Captures) (next : MatchState) : Prop where
  captures : next.captures = found
  isExhausted : next.isExhausted = state.isExhausted
  position : ∀ span, found.span? 0 = some span → next.position = some span.stop
  emptyAt : ∀ span, found.span? 0 = some span →
    next.emptyAt = if span.isEmpty then some span.stop else none

namespace Searcher

variable {searcher : Searcher} {subject : Subject} {state : MatchState}

/-- Where a state starts to search, and whether an empty match may be found there. -/
def findNext (searcher : Searcher) (subject : Subject) (state : MatchState) : Option Captures :=
  let start := state.position.getD 0
  searcher.find subject start (state.emptyAt != some start)

theorem globalStep_of_some {captures : Captures}
    (h : searcher.findNext subject state = some captures) (keepPosition : Bool) :
    ∃ next, searcher.globalStep subject keepPosition state = (true, next) ∧
      state.Moved captures next := by
  unfold findNext at h
  refine ⟨_, by simp only [globalStep, h]; rfl, ?_⟩
  refine ⟨rfl, rfl, fun span hspan => ?_, fun span hspan => ?_⟩
  · simp [MatchState.record, hspan]
  · simp [MatchState.record, hspan]

theorem globalStep_of_none (h : searcher.findNext subject state = none) (keepPosition : Bool) :
    ∃ next, searcher.globalStep subject keepPosition state = (false, next) := by
  unfold findNext at h
  exact ⟨_, by simp only [globalStep, h]; rfl⟩

theorem span?_spans (subject : Subject) (groups : Pattern.ByteGroups) :
    (subject.spans groups).span? 0 = groups.head?.join.map fun (start, stop) =>
      ⟨subject.charIndex start, subject.charIndex stop⟩ := by
  cases groups with
  | nil => rfl
  | cons whole groups => cases whole <;> rfl

/-- A search that admits empty matches finds no match without a span. -/
theorem exists_span_of_findNext {captures : Captures} (h : state.emptyAt = none)
    (hfind : searcher.findNext subject state = some captures) :
    ∃ span, captures.span? 0 = some span := by
  simp only [findNext, h, find, bind, Option.bind_eq_some_iff] at hfind
  obtain ⟨place, -, groups, -, whole, hwhole, hcaptures⟩ := hfind
  obtain rfl := Option.some.inj hcaptures
  exact ⟨_, by rw [span?_spans, hwhole]; rfl⟩

end Searcher

/-! ## The loops have these reports -/

namespace Action

variable (searcher : Searcher) (keepPosition : Bool) (v : Value)

theorem streamMatch_of_ready {state next : MatchState} {matched : Bool} {world : World}
    (ready : state.isExhausted = false)
    (h : searcher.globalStep (.ofText (world.text v).value) keepPosition state = (matched, next)) :
    streamMatch searcher keepPosition v .scalar state world =
      .ok (.scalar matched, next) (world.warnAll (world.text v).warnings) := by
  obtain ⟨rfl, rfl⟩ := Prod.mk.inj h
  unfold streamMatch
  rw [ready]
  rfl

/-- A step sees the text of the value, whatever was reported before. -/
theorem text_warnAll (world : World) (warnings : List Warning) :
    (world.warnAll warnings).text v = world.text v := by
  obtain ⟨log, hlog⟩ := world.exists_warnAll_eq warnings
  rw [hlog, World.text_log]

theorem keptLoop_eq {state : MatchState} (ready : state.isExhausted = false) (steps : Nat)
    (world : World) : ∃ world', keptLoop searcher keepPosition v steps state world =
      .ok (searcher.keptReports (.ofText (world.text v).value) keepPosition steps state) world' := by
  induction steps generalizing state world with
  | zero => exact ⟨world, rfl⟩
  | succ steps ih =>
    rw [keptLoop, Searcher.keptReports]
    cases hfind : searcher.findNext (.ofText (world.text v).value) state with
    | some captures =>
      obtain ⟨next, hstep, hmoved⟩ := Searcher.globalStep_of_some hfind keepPosition
      obtain ⟨world', hrest⟩ := ih (hmoved.isExhausted.trans ready)
        (world.warnAll (world.text v).warnings)
      rw [text_warnAll] at hrest
      rw [hstep]
      refine ⟨world', ?_⟩
      simp only [bind, EStateM.bind, streamMatch_of_ready searcher keepPosition v ready hstep,
        MatchOutcome.isMatch, ↓reduceIte, hrest]
      rfl
    | none =>
      obtain ⟨next, hstep⟩ := Searcher.globalStep_of_none hfind keepPosition
      rw [hstep]
      refine ⟨world.warnAll (world.text v).warnings, ?_⟩
      simp only [bind, EStateM.bind, streamMatch_of_ready searcher keepPosition v ready hstep,
        MatchOutcome.isMatch]
      rfl

/-- What a step of the threaded loop leaves for the next one. -/
theorem commit_after_warnings {world : World} (hlt : v.id < world.heap.size)
    (hscalar : world.heap.kind v = .scalar) (warnings : List Warning) (next : MatchState) :
    ∃ after, onHeap (fun heap => ((), next.commit heap v)) (world.warnAll warnings) = .ok () after ∧
      v.id < after.heap.size ∧ after.heap.kind v = .scalar ∧
      after.heap.position? v = next.position ∧ after.text v = world.text v := by
  obtain ⟨datum, before, hcontent⟩ := Content.eq_scalar_of_kind hscalar
  obtain ⟨log, hlog⟩ := world.exists_warnAll_eq warnings
  refine ⟨_, rfl, ?_, ?_, ?_, ?_⟩
  · rw [hlog]
    exact Nat.lt_of_lt_of_le hlt (world.heap.rewrites_setPosition v _).evolves.size
  · rw [hlog]
    exact (world.heap.kind_setPosition v v _).trans hscalar
  · rw [hlog]
    simp only [MatchState.commit, Heap.position?, Heap.content_setPosition_self hlt hcontent]
  · rw [hlog]
    exact world.text_setPosition v v _

theorem threadedLoop_eq (steps : Nat) {world : World} (hlt : v.id < world.heap.size)
    (hscalar : world.heap.kind v = .scalar) :
    ∃ world', threadedLoop searcher keepPosition v steps world =
      .ok (searcher.threadedReports (.ofText (world.text v).value) keepPosition steps
        (world.heap.position? v)) world' := by
  induction steps generalizing world with
  | zero => exact ⟨world, rfl⟩
  | succ steps ih =>
    have ready : (MatchState.ofValue world.heap v).isExhausted = false := rfl
    rw [Searcher.threadedReports]
    cases hfind : searcher.findNext (.ofText (world.text v).value)
        (.ofPosition (world.heap.position? v)) with
    | some captures =>
      obtain ⟨next, hstep, -⟩ := Searcher.globalStep_of_some hfind keepPosition
      -- The next step starts from the position that is committed and sees the same text.
      obtain ⟨after, hcommit, hlt', hscalar', hposition, htext⟩ :=
        commit_after_warnings v hlt hscalar (world.text v).warnings next
      obtain ⟨world', hrest⟩ := ih hlt' hscalar'
      rw [htext, hposition] at hrest
      rw [hstep]
      refine ⟨world', ?_⟩
      simp only [threadedLoop, bind, EStateM.bind, Action.get_eq,
        streamMatch_of_ready searcher keepPosition v ready hstep, hcommit, MatchOutcome.isMatch,
        ↓reduceIte, hrest]
      rfl
    | none =>
      obtain ⟨next, hstep⟩ := Searcher.globalStep_of_none hfind keepPosition
      obtain ⟨after, hcommit, -⟩ :=
        commit_after_warnings v hlt hscalar (world.text v).warnings next
      rw [hstep]
      refine ⟨after, ?_⟩
      simp only [threadedLoop, bind, EStateM.bind, Action.get_eq,
        streamMatch_of_ready searcher keepPosition v ready hstep, hcommit, MatchOutcome.isMatch]
      rfl

end Action

/-! ## Where the loops agree -/

namespace Searcher

variable {searcher : Searcher} {subject : Subject} {keepPosition : Bool}

/-- A state without a note of an empty match searches like a fresh one. -/
theorem findNext_ofPosition {state : MatchState} (h : state.emptyAt = none) :
    searcher.findNext subject (.ofPosition state.position) = searcher.findNext subject state := by
  simp [findNext, MatchState.ofPosition, h]

/-- **The threaded reports are the kept ones as long as the matches before are not empty.** -/
theorem threadedReports_getElem? {state : MatchState} (h : state.emptyAt = none) (steps k : Nat)
    (nonempty : ∀ j < k, ∀ captures span,
      (searcher.keptReports subject keepPosition steps state)[j]? = some (some captures) →
        captures.span? 0 = some span → span.isEmpty = false) :
    (searcher.threadedReports subject keepPosition steps state.position)[k]? =
      (searcher.keptReports subject keepPosition steps state)[k]? := by
  induction steps generalizing state k with
  | zero => rfl
  | succ steps ih =>
    rw [keptReports] at nonempty
    rw [threadedReports, keptReports]
    have hsame : searcher.findNext subject (.ofPosition state.position) =
        searcher.findNext subject state := findNext_ofPosition h
    cases hfind : searcher.findNext subject state with
    | none =>
      obtain ⟨next, hkept⟩ := globalStep_of_none hfind keepPosition
      obtain ⟨next', hthreaded⟩ := globalStep_of_none (hsame.trans hfind) keepPosition
      rw [hkept, hthreaded]
    | some captures =>
      obtain ⟨next, hkept, hmoved⟩ := globalStep_of_some hfind keepPosition
      obtain ⟨next', hthreaded, hmoved'⟩ := globalStep_of_some (hsame.trans hfind) keepPosition
      rw [hkept] at nonempty
      rw [hkept, hthreaded]
      dsimp only at nonempty ⊢
      cases k with
      | zero => simp only [List.getElem?_cons_zero, hmoved.captures, hmoved'.captures]
      | succ k =>
        obtain ⟨span, hspan⟩ := exists_span_of_findNext h hfind
        have hempty : span.isEmpty = false :=
          nonempty 0 (Nat.succ_pos k) next.captures span rfl (by rw [hmoved.captures, hspan])
        -- Neither state notes an empty match, so both go on from the end of this one alike.
        have hnext : next.emptyAt = none := by
          rw [hmoved.emptyAt span hspan, hempty]
          rfl
        have hposition : next'.position = next.position := by
          rw [hmoved'.position span hspan, hmoved.position span hspan]
        rw [List.getElem?_cons_succ, List.getElem?_cons_succ, hposition]
        refine ih hnext k fun j hj captures span hget => ?_
        exact nonempty (j + 1) (Nat.succ_lt_succ hj) captures span (by simpa using hget)

/-- **A match that is empty where the search begins is found for ever**, since the next search is
the same one. -/
theorem threadedReports_eq_replicate {position : Option Nat} {captures : Captures}
    (hfind : searcher.findNext subject (.ofPosition position) = some captures)
    (hspan : captures.span? 0 = some ⟨position.getD 0, position.getD 0⟩) (steps : Nat) :
    searcher.threadedReports subject keepPosition steps position =
      List.replicate steps (some captures) := by
  induction steps generalizing position with
  | zero => rfl
  | succ steps ih =>
    obtain ⟨next, hstep, hmoved⟩ := globalStep_of_some hfind keepPosition
    have hposition : next.position = some (position.getD 0) := hmoved.position _ hspan
    have hrest : searcher.threadedReports subject keepPosition steps next.position =
        List.replicate steps (some captures) := by
      rw [hposition]
      exact ih hfind hspan
    rw [threadedReports, hstep, List.replicate_succ, ← hrest, ← hmoved.captures]

end Searcher

namespace Action

/-- **Threading a stream through the match position loses nothing up to the first empty match.**
Both loops run to their end, and where none of the matches before is empty they have the same report,
be it a match or the failure that ends the stream. -/
theorem threadedLoop_agrees (searcher : Searcher) (keepPosition : Bool) (v : Value) (world : World)
    (hlt : v.id < world.heap.size) (hscalar : world.heap.kind v = .scalar) (steps : Nat) :
    ∃ kept threaded : List (Option Captures),
      (keptLoop searcher keepPosition v steps (.ofValue world.heap v)).outcome world = .ok kept ∧
      (threadedLoop searcher keepPosition v steps).outcome world = .ok threaded ∧
      ∀ k : Nat, (∀ j < k, ∀ (captures : Captures) (span : Span),
          kept[j]? = some (some captures) → captures.span? 0 = some span → span.isEmpty = false) →
        threaded[k]? = kept[k]? := by
  have ready : (MatchState.ofValue world.heap v).isExhausted = false := rfl
  obtain ⟨_, hkept⟩ := keptLoop_eq searcher keepPosition v ready steps world
  obtain ⟨_, hthreaded⟩ := threadedLoop_eq searcher keepPosition v steps hlt hscalar
  refine ⟨_, _, by rw [outcome, hkept], by rw [outcome, hthreaded], fun k nonempty => ?_⟩
  exact Searcher.threadedReports_getElem? rfl steps k nonempty

/-- **After that the threaded loop may never end.** If the search from the match position finds an
empty match right there, every step reports it. -/
theorem threadedLoop_repeats (searcher : Searcher) (keepPosition : Bool) (v : Value) (world : World)
    (hlt : v.id < world.heap.size) (hscalar : world.heap.kind v = .scalar) {captures : Captures}
    (hfind : searcher.findNext (.ofText (world.text v).value) (.ofValue world.heap v) =
      some captures)
    (hspan : captures.span? 0 =
      some ⟨(world.heap.position? v).getD 0, (world.heap.position? v).getD 0⟩) (steps : Nat) :
    (threadedLoop searcher keepPosition v steps).outcome world =
      .ok (List.replicate steps (some captures)) := by
  obtain ⟨_, hthreaded⟩ := threadedLoop_eq searcher keepPosition v steps hlt hscalar
  rw [outcome, hthreaded, Searcher.threadedReports_eq_replicate hfind hspan]

end Action

/-- A world with one scalar, which holds a text. -/
def World.ofText (text : String) : World :=
  { (default : World) with heap := ⟨#[{ content := .scalar (.text text) none }]⟩ }

/-- Finds every byte of a text, one after the other. -/
def Searcher.eachByte : Searcher where
  capturesAt text place :=
    if place < text.utf8ByteSize then some [some (place, place + 1)] else none
  longestAt? := none

namespace Action

/-- The threaded loop comes to the end of the text. -/
theorem threadedLoop_agrees_eachByte :
    ∃ threaded : List (Option Captures),
      (threadedLoop .eachByte false ⟨0⟩ 2).outcome (.ofText "a") = .ok threaded ∧
      threaded[0]? = some (some [some ⟨0, 1⟩]) ∧ threaded[1]? = some none := by
  obtain ⟨kept, threaded, hkept, hthreaded, hagrees⟩ :=
    threadedLoop_agrees .eachByte false ⟨0⟩ (.ofText "a") (by decide) (by decide) 2
  have hreports : (keptLoop .eachByte false ⟨0⟩ 2 (.ofValue (World.ofText "a").heap ⟨0⟩)).outcome
      (.ofText "a") = .ok [some [some ⟨0, 1⟩], none] := by rfl
  obtain rfl := Except.ok.inj (hkept.symm.trans hreports)
  refine ⟨threaded, hthreaded, ?_, ?_⟩
  · exact hagrees 0 (by simp)
  · refine hagrees 1 fun j hj captures span hcaptures hspan => ?_
    obtain rfl : j = 0 := by omega
    obtain rfl : captures = [some ⟨0, 1⟩] := by simpa using hcaptures.symm
    obtain rfl : span = ⟨0, 1⟩ := by simpa [Captures.span?] using hspan.symm
    rfl

/-- **The empty pattern drives the two loops apart**: one state goes through the text and comes to its
end, the threaded loop stays where it is. -/
theorem threadedLoop_stays :
    (keptLoop CompiledPattern.empty.searcher false ⟨0⟩ 3
        (.ofValue (World.ofText "a").heap ⟨0⟩)).outcome (.ofText "a") = .ok [some [some ⟨0, 0⟩], some [some ⟨1, 1⟩], none] ∧
      (threadedLoop CompiledPattern.empty.searcher false ⟨0⟩ 3).outcome (.ofText "a") =
        .ok [some [some ⟨0, 0⟩], some [some ⟨0, 0⟩], some [some ⟨0, 0⟩]] := by
  rw [CompiledPattern.searcher_empty]
  exact ⟨rfl, threadedLoop_repeats _ false ⟨0⟩ (.ofText "a") (by decide) (by decide) rfl rfl 3⟩

end Action

end DynamicValues
