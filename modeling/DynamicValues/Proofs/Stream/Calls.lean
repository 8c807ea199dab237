import DynamicValues.Proofs.Stream.Progress

/-!
# Calls on one match state

A match state belongs to its caller, who may hand it to a global match, to a match of a value and to
a match of a text in turn. `Calls` are such calls one after the other. Nothing but the state goes from
one call to the next, so each has a world of its own.

A global match gives an exhausted state back as it was and takes global steps from any other one
(`Streamed`). Every other match leaves alone whether the state is exhausted and where the last global
match was empty (`MatchState.Aside`). So **a state that is exhausted stays exhausted**
(`Calls.isExhausted`).
-/

set_option autoImplicit false

namespace DynamicValues

/-! ## What becomes of the state -/

/-- A state after a match that was no part of the stream. -/
structure MatchState.Aside (state next : MatchState) : Prop where
  isExhausted : next.isExhausted = state.isExhausted
  emptyAt : next.emptyAt = state.emptyAt

/-- What a global match makes of a state, and whether anything matched. -/
inductive Searcher.Streamed (searcher : Searcher) (state : MatchState) :
    Bool → MatchState → Prop where
  | stays (exhausted : state.isExhausted = true) : Streamed searcher state false state
  | steps {subject : Subject} {keepPosition matched : Bool} {next : MatchState}
      (ready : state.isExhausted = false)
      (step : searcher.globalStep subject keepPosition state = (matched, next)) :
      Streamed searcher state matched next
  | collects {subject : Subject} {keepPosition matched : Bool} (ready : state.isExhausted = false) :
      Streamed searcher state matched (searcher.collect subject keepPosition state).2

namespace Searcher

variable (searcher : Searcher) (state : MatchState) (text : String)

theorem aside_matchText (start : Nat) (allowEmpty : Bool) :
    state.Aside (searcher.matchText text start allowEmpty state).2 := by
  unfold matchText
  dsimp only
  split <;> exact ⟨rfl, rfl⟩

theorem aside_answerOnce (context : Context) :
    state.Aside (searcher.answerOnce text context state).2 := by
  have haside : state.Aside (searcher.matchAnywhere text state).2 := by
    unfold matchAnywhere
    dsimp only
    split <;> exact ⟨rfl, rfl⟩
  unfold answerOnce
  generalize searcher.matchAnywhere text state = answer at haside ⊢
  obtain ⟨found, next⟩ := answer
  cases found with
  | none => exact haside
  | some captures =>
    cases context with
    | list => dsimp only; split <;> exact haside
    | void => exact haside
    | scalar => exact haside

end Searcher

namespace Action

variable (searcher : Searcher) (keepPosition : Bool) (v : Value) (context : Context)
  (state : MatchState) (world : World)

theorem outcome_streamMatch :
    (streamMatch searcher keepPosition v context state).outcome world =
      .ok (if state.isExhausted then (.failure context, state)
        else searcher.answerGlobal (world.text v).value keepPosition context state) := by
  unfold streamMatch outcome
  cases state.isExhausted <;> rfl

theorem outcome_singleMatch :
    (singleMatch searcher v context state).outcome world =
      .ok (searcher.answerOnce (world.text v).value context state) := rfl

theorem exists_streamed_streamMatch :
    ∃ answer next, (streamMatch searcher keepPosition v context state).outcome world =
      .ok (answer, next) ∧ searcher.Streamed state answer.isMatch next := by
  rw [outcome_streamMatch]
  refine ⟨_, _, rfl, ?_⟩
  cases ready : state.isExhausted with
  | true => cases context <;> exact .stays ready
  | false =>
    cases context with
    | list => exact .collects ready
    | void => exact .steps ready rfl
    | scalar => exact .steps ready rfl

theorem matchGlobal_of_exhausted {state : MatchState} (exhausted : state.isExhausted = true)
    (pattern : CompiledPattern) (modifiers : Modifiers) (v : Value) (context : Context)
    (world : World) :
    (matchGlobal pattern modifiers v context state).outcome world =
      .ok (.failure context, state) := by
  rw [matchGlobal, outcome_streamMatch, if_pos exhausted]

/-- A call in scalar context on a state that is not exhausted is a step. -/
theorem matchGlobal_scalar_iff {pattern : CompiledPattern} {modifiers : Modifiers} {v : Value}
    {text : String} {state next : MatchState} (ready : state.isExhausted = false) {world : World}
    (htext : (world.text v).value = text) {matched : Bool} :
    (matchGlobal pattern modifiers v .scalar state).outcome world = .ok (.scalar matched, next) ↔
      pattern.searcher.globalStep (.ofText text)
        (modifiers.union pattern.modifiers).keepPosition state = (matched, next) := by
  rw [matchGlobal, outcome_streamMatch, ready, htext]
  simp [Searcher.answerGlobal, Prod.ext_iff]

end Action

/-! ## One call -/

/-- An operation that a match state can be handed to. -/
inductive MatchCall where
  | global (pattern : CompiledPattern) (modifiers : Modifiers) (v : Value) (context : Context)
  | value (pattern : CompiledPattern) (modifiers : Modifiers) (v : Value) (context : Context)
  | text (pattern : CompiledPattern) (subject : String) (start : Nat) (allowEmpty : Bool)

namespace MatchCall

def pattern : MatchCall → CompiledPattern
  | global pattern _ _ _ | value pattern _ _ _ | text pattern _ _ _ => pattern

/-- Whether the call is a global match. -/
def isGlobal : MatchCall → Bool
  | global _ _ _ _ => true
  | value pattern modifiers _ _ => (modifiers.union pattern.modifiers).isGlobal
  | text _ _ _ _ => false

/-- Whether something matched, and the state after the call. -/
def run (state : MatchState) : MatchCall → Action (Bool × MatchState)
  | global pattern modifiers v context =>
    (fun (answer, next) => (answer.isMatch, next)) <$>
      Action.matchGlobal pattern modifiers v context state
  | value pattern modifiers v context =>
    (fun (answer, next) => (answer.isMatch, next)) <$>
      Action.matchValue pattern modifiers v context state
  | text pattern subject start allowEmpty =>
    return pattern.searcher.matchText subject start allowEmpty state

variable {state next : MatchState} {world : World} {matched : Bool}

theorem streamed_of_global {pattern : CompiledPattern} {modifiers : Modifiers} {v : Value}
    {context : Context}
    (h : ((global pattern modifiers v context).run state).outcome world = .ok (matched, next)) :
    pattern.searcher.Streamed state matched next := by
  obtain ⟨answer, last, hanswer, hstreamed⟩ := Action.exists_streamed_streamMatch
    pattern.searcher (modifiers.union pattern.modifiers).keepPosition v context state world
  rw [run, Action.outcome_map, Action.matchGlobal, hanswer] at h
  obtain ⟨rfl, rfl⟩ := Prod.mk.inj (Except.ok.inj h)
  exact hstreamed

/-- **What a call does to the state**: it is a global match or leaves the stream alone. -/
theorem run_cases {call : MatchCall}
    (h : (call.run state).outcome world = .ok (matched, next)) :
    (call.isGlobal = true ∧ call.pattern.searcher.Streamed state matched next) ∨
    (call.isGlobal = false ∧ state.Aside next) := by
  cases call with
  | global pattern modifiers v context => exact .inl ⟨rfl, streamed_of_global h⟩
  | value pattern modifiers v context =>
    cases hglobal : (modifiers.union pattern.modifiers).isGlobal with
    | true =>
      left
      rw [run, Action.matchValue, if_pos hglobal] at h
      exact ⟨hglobal, streamed_of_global h⟩
    | false =>
      right
      rw [run, Action.matchValue, if_neg (by simp [hglobal]), Action.outcome_map,
        Action.outcome_singleMatch] at h
      obtain ⟨-, rfl⟩ := Prod.mk.inj (Except.ok.inj h)
      exact ⟨hglobal, Searcher.aside_answerOnce _ _ _ _⟩
  | text pattern subject start allowEmpty =>
    right
    obtain ⟨-, rfl⟩ := Prod.mk.inj (Except.ok.inj h)
    exact ⟨rfl, Searcher.aside_matchText _ _ _ _ _⟩

end MatchCall

/-! ## Call after call -/

/-- A call, whether it matched, and the state that it left. -/
structure MatchReport where
  call : MatchCall
  matched : Bool
  state : MatchState

/-- Calls from a state on, each in some world, and the state after them. -/
inductive Calls : MatchState → List MatchReport → MatchState → Prop where
  | nil (state : MatchState) : Calls state [] state
  | cons {call : MatchCall} {state next last : MatchState} {world : World} {matched : Bool}
      {reports : List MatchReport} (made : (call.run state).outcome world = .ok (matched, next))
      (rest : Calls next reports last) : Calls state (⟨call, matched, next⟩ :: reports) last

/-- **No call brings an exhausted state back.** -/
theorem Calls.isExhausted {state last : MatchState} {reports : List MatchReport}
    (calls : Calls state reports last) (exhausted : state.isExhausted = true) :
    last.isExhausted = true := by
  induction calls with
  | nil _ => exact exhausted
  | cons made _ ih =>
    apply ih
    rcases MatchCall.run_cases made with ⟨-, hstreamed⟩ | ⟨-, haside⟩
    · cases hstreamed with
      | stays _ => exact exhausted
      | steps ready _ => exact absurd exhausted (by simp [ready])
      | collects ready => exact absurd exhausted (by simp [ready])
    · exact haside.isExhausted.trans exhausted

end DynamicValues
