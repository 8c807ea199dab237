import DynamicValues.Proofs.Stream.Calls

/-!
# Collecting a stream at once and call by call

A global match takes one step in scalar context and all that are left in list context. The two walk
the stream alike (`Action.matchGlobal_list_eq_scalarCalls`): the list is what the scalar calls up to
the first that fails captured, and the state in the end is the same. In between, each scalar call
looks at the value and at the state anew, while the list is collected in one loop over one text.

What a call captured is read back from the state that it left (`MatchState.groupData`). The loop comes
to an end since the searcher is sound, and each group has its entry since the searcher counts them.
-/

set_option autoImplicit false

namespace DynamicValues

/-- The text of each of the groups of the last match, undef for a group that took no part; the text
of the whole match if there are no groups. -/
def MatchState.groupData (groups : Nat) (state : MatchState) : List Datum :=
  if groups = 0 then [capturedDatum (state.group? 0)]
  else (List.range groups).map fun group => capturedDatum (state.group? (group + 1))

theorem MatchState.groupData_ne_nil (groups : Nat) (state : MatchState) :
    state.groupData groups ≠ [] := by
  unfold groupData
  split <;> simp_all

/-- What a step captured can be read back from its state. -/
theorem MatchState.map_texts_eq_groupData {state : MatchState} {groups : Nat}
    (hlength : state.captures.length = groups + 1)
    (hwhole : ∃ span, state.captures.span? 0 = some span) :
    (state.captures.texts state.subject).map capturedDatum = state.groupData groups := by
  obtain ⟨span, hspan⟩ := hwhole
  unfold groupData group?
  cases hcaptures : state.captures with
  | nil => exact absurd hlength (by simp [hcaptures])
  | cons whole rest =>
    rw [hcaptures] at hspan hlength
    cases rest with
    | nil =>
      obtain rfl : groups = 0 := by simpa using hlength.symm
      obtain rfl : whole = some span := by simpa [Captures.span?] using hspan
      rfl
    | cons first others =>
      obtain rfl : groups = others.length + 1 := by simpa using hlength.symm
      rw [if_neg (Nat.succ_ne_zero _)]
      refine List.ext_getElem (by simp [Captures.texts]) fun group hgroup hgroup' => ?_
      have hlt : group < (first :: others).length := by simpa using hgroup'
      simp only [Captures.texts, List.getElem_map, List.getElem_range, Captures.span?,
        List.getElem?_cons_succ, List.getElem?_eq_getElem hlt, Option.join_some]

namespace Searcher

variable {searcher : Searcher} {groups : Nat} {subject : Subject} {keepPosition : Bool}

/-- What is found has as many entries as what the programs find. -/
theorem Counts.find {entries : Nat} (counts : searcher.Counts entries) {start : Nat}
    {allowEmpty : Bool} {captures : Captures}
    (h : searcher.find subject start allowEmpty = some captures) : captures.length = entries := by
  obtain ⟨place, groups, hplace, rfl, hfound⟩ := exists_groups_of_find h
  rw [Subject.spans, List.length_map]
  exact hfound.elim (counts.capturesAt hplace) (counts.nonemptyAt hplace)

theorem map_texts_of_globalStep (sound : searcher.Sound) (counts : searcher.Counts (groups + 1))
    {state next : MatchState}
    (h : searcher.globalStep subject keepPosition state = (true, next)) :
    (next.captures.texts subject).map capturedDatum = next.groupData groups := by
  obtain ⟨captures, hfind, hmoved, rfl⟩ := moved_of_globalStep h
  obtain ⟨span, hspan, -⟩ := sound.find hfind
  have hlength : next.captures.length = groups + 1 := by
    rw [hmoved.captures, counts.find hfind]
  exact MatchState.map_texts_eq_groupData hlength ⟨span, by rw [hmoved.captures, hspan]⟩

namespace Steps

theorem map_texts (sound : searcher.Sound) (counts : searcher.Counts (groups + 1))
    {state last : MatchState} {found : List MatchState}
    (steps : searcher.Steps subject keepPosition state found last) :
    (found.flatMap fun next => next.captures.texts subject).map capturedDatum =
      found.flatMap (·.groupData groups) := by
  induction steps with
  | fails _ => rfl
  | finds step _ ih =>
    rw [List.flatMap_cons, List.flatMap_cons, List.map_append, ih,
      map_texts_of_globalStep sound counts step]

/-- A stream has one course. -/
theorem unique {state last last' : MatchState} {found found' : List MatchState}
    (steps : searcher.Steps subject keepPosition state found last)
    (steps' : searcher.Steps subject keepPosition state found' last') :
    found' = found ∧ last' = last := by
  induction steps generalizing found' with
  | fails step =>
    cases steps' with
    | fails step' => exact ⟨rfl, (Prod.mk.inj (step'.symm.trans step)).2⟩
    | finds step' _ => exact absurd (step'.symm.trans step) (by simp)
  | finds step _ ih =>
    cases steps' with
    | fails step' => exact absurd (step'.symm.trans step) (by simp)
    | finds step' rest' =>
      obtain rfl := (Prod.mk.inj (step'.symm.trans step)).2
      obtain ⟨rfl, rfl⟩ := ih rest'
      exact ⟨rfl, rfl⟩

end Steps

end Searcher

/-- The pattern `(a)|b`, whose group takes part in some matches only. -/
def CompiledPattern.aOrB : CompiledPattern :=
  .ofNode "(a)|b" {} (.choice (.group 1 (.chars (.ofRange 97 97))) (.chars (.ofRange 98 98)))

theorem CompiledPattern.compile_aOrB : compile .lockstep 1000 "(a)|b" {} = .ok aOrB := rfl

theorem CompiledPattern.lawful_aOrB : aOrB.Lawful := Engine.lawful_lockstep compile_aOrB

namespace Action

variable {pattern : CompiledPattern} {modifiers : Modifiers} {v : Value} {text : String}

/-- Global matches in scalar context, one after the other until one fails: the states after those
that match, and the state after the one that fails. Each is called in some world where the value has
that text. -/
inductive ScalarCalls (pattern : CompiledPattern) (modifiers : Modifiers) (v : Value)
    (text : String) : MatchState → List MatchState → MatchState → Prop where
  | fails {state last : MatchState} {world : World} (htext : (world.text v).value = text)
      (call : (matchGlobal pattern modifiers v .scalar state).outcome world =
        .ok (.scalar false, last)) :
      ScalarCalls pattern modifiers v text state [] last
  | succeeds {state next last : MatchState} {found : List MatchState} {world : World}
      (htext : (world.text v).value = text)
      (call : (matchGlobal pattern modifiers v .scalar state).outcome world =
        .ok (.scalar true, next))
      (rest : ScalarCalls pattern modifiers v text next found last) :
      ScalarCalls pattern modifiers v text state (next :: found) last

/-- Calls in scalar context are the steps of the stream. -/
theorem scalarCalls_iff_steps {state last : MatchState} {found : List MatchState}
    (ready : state.isExhausted = false) {world : World} (htext : (world.text v).value = text) :
    ScalarCalls pattern modifiers v text state found last ↔
      pattern.searcher.Steps (.ofText text)
        (modifiers.union pattern.modifiers).keepPosition state found last := by
  constructor
  · intro calls
    -- A state stays ready as long as the calls succeed.
    induction calls with
    | fails htext call => exact .fails ((matchGlobal_scalar_iff ready htext).1 call)
    | succeeds htext call _ ih =>
      have step := (matchGlobal_scalar_iff ready htext).1 call
      obtain ⟨_, -, hmoved, -⟩ := Searcher.moved_of_globalStep step
      exact .finds step (ih (hmoved.isExhausted.trans ready))
  · intro steps
    induction steps with
    | fails step => exact .fails htext ((matchGlobal_scalar_iff ready htext).2 step)
    | finds step _ ih =>
      obtain ⟨_, -, hmoved, -⟩ := Searcher.moved_of_globalStep step
      exact .succeeds htext ((matchGlobal_scalar_iff ready htext).2 step)
        (ih (hmoved.isExhausted.trans ready))

theorem scalarCalls_iff_of_exhausted {state last : MatchState} {found : List MatchState}
    (exhausted : state.isExhausted = true) {world : World} (htext : (world.text v).value = text) :
    ScalarCalls pattern modifiers v text state found last ↔ found = [] ∧ last = state := by
  have hcall := matchGlobal_of_exhausted exhausted pattern modifiers v .scalar
  constructor
  · intro calls
    cases calls with
    | fails _ call =>
      exact ⟨rfl, (Prod.mk.inj (Except.ok.inj (call.symm.trans (hcall _)))).2⟩
    | succeeds _ call _ =>
      exact absurd (call.symm.trans (hcall _)) (by simp [MatchOutcome.failure])
  · rintro ⟨rfl, rfl⟩
    exact .fails htext (hcall world)

/-- **Collecting a stream and walking it are the same.** Whatever the state, the calls in scalar
context have one course up to the first that fails, and a call in list context answers what they
captured and leaves the state that they leave. The list is not empty if and only if the first call
matches. The state in the end is exhausted, and whatever it is handed to afterwards, every global
match fails and leaves it as it is. -/
theorem matchGlobal_list_eq_scalarCalls (sound : pattern.searcher.Sound)
    (counts : pattern.searcher.Counts (pattern.groupCount + 1)) (modifiers : Modifiers) (v : Value)
    (state : MatchState) (world : World) :
    ∃ found last,
      (∀ found' last', ScalarCalls pattern modifiers v (world.text v).value state found' last' ↔
        found' = found ∧ last' = last) ∧
      (matchGlobal pattern modifiers v .list state).outcome world =
        .ok (.list (found.flatMap (·.groupData pattern.groupCount)), last) ∧
      (found.flatMap (·.groupData pattern.groupCount) ≠ [] ↔
        ∃ next, (matchGlobal pattern modifiers v .scalar state).outcome world =
          .ok (.scalar true, next)) ∧
      last.isExhausted = true ∧
      ∀ reports after, Calls last reports after →
        ∀ (pattern' : CompiledPattern) (modifiers' : Modifiers) (v' : Value) (context : Context)
          (world' : World),
          (matchGlobal pattern' modifiers' v' context after).outcome world' =
            .ok (.failure context, after) := by
  have hafter : ∀ {last : MatchState}, last.isExhausted = true →
      ∀ reports after, Calls last reports after →
        ∀ pattern' modifiers' v' context world',
          (matchGlobal pattern' modifiers' v' context after).outcome world' =
            .ok (.failure context, after) :=
    fun exhausted _ _ calls => matchGlobal_of_exhausted (calls.isExhausted exhausted)
  cases ready : state.isExhausted with
  | true =>
    have hcall := matchGlobal_of_exhausted ready pattern modifiers v
    refine ⟨[], state, fun _ _ => scalarCalls_iff_of_exhausted ready rfl, hcall .list world, ?_,
      ready, hafter ready⟩
    simp [hcall, MatchOutcome.failure]
  | false =>
    have hsteps : ∃ found last, pattern.searcher.Steps (.ofText (world.text v).value)
        (modifiers.union pattern.modifiers).keepPosition state found last :=
      sound.exists_steps state
    obtain ⟨found, last, steps⟩ := hsteps
    refine ⟨found, last, ?_, ?_, ?_, steps.isExhausted_last, hafter steps.isExhausted_last⟩
    · intro found' last'
      rw [scalarCalls_iff_steps ready rfl]
      exact ⟨steps.unique, fun h => h.1 ▸ h.2 ▸ steps⟩
    · rw [matchGlobal, outcome_streamMatch, ready]
      simp only [Bool.false_eq_true, if_false, Searcher.answerGlobal, steps.collect_eq sound,
        steps.map_texts sound counts]
    · simp only [matchGlobal_scalar_iff ready rfl]
      cases steps with
      | fails step => simp [step]
      | finds step _ => simp [step, MatchState.groupData_ne_nil]

/-- In `ba` the group of `(a)|b` takes part in the second match only. -/
theorem matchGlobal_list_eq_scalarCalls_aOrB :
    CompiledPattern.aOrB.searcher.Sound ∧ CompiledPattern.aOrB.searcher.Counts 2 ∧ ∃ found last,
      ScalarCalls .aOrB {} ⟨0⟩ "ba" {} found last ∧
      (matchGlobal .aOrB {} ⟨0⟩ .list {}).outcome (.ofText "ba") =
        .ok (.list [.undef, .text "a"], last) ∧
      last.isExhausted = true := by
  obtain ⟨sound, -, counts⟩ := CompiledPattern.lawful_aOrB
  obtain ⟨found, last, hcalls, hlist, -, hexhausted, -⟩ :=
    matchGlobal_list_eq_scalarCalls sound counts {} ⟨0⟩ {} (.ofText "ba")
  have hrun : (matchGlobal .aOrB {} ⟨0⟩ .list {}).outcome (.ofText "ba") =
      .ok (.list [.undef, .text "a"],
        ⟨none, [some ⟨1, 2⟩, some ⟨1, 2⟩], .exhausted, none, .ofText "ba"⟩) := by cbv
  obtain ⟨-, rfl⟩ := Prod.mk.inj (Except.ok.inj (hlist.symm.trans hrun))
  exact ⟨sound, counts, found, _, (hcalls _ _).2 ⟨rfl, rfl⟩, hrun, hexhausted⟩

end Action

end DynamicValues
