import DynamicValues.Proofs.Stream.Collected

/-!
# What the captures of a state describe

A state keeps the spans of the last match apart from the text that they are spans of, and the calls
that it goes through may be about different texts. `MatchState.Reached` follows a state through
calls, moves of the position and resets, with the text of the last call that matched beside it.
**Its spans are ranges of that text** (`MatchState.Reached.describes`): every call that matches notes
both anew, and one that does not notes neither (`MatchCall.Captured`).
-/

set_option autoImplicit false

namespace DynamicValues

/-- The spans of a state are ranges of its text, and this is the text that was matched last. -/
def MatchState.Describes (state : MatchState) (last : Option String) : Prop :=
  ∀ group span, state.captures.span? group = some span →
    last = some state.subject.text ∧ span.start ≤ span.stop ∧
      span.stop ≤ state.subject.text.length

/-- Nothing was captured from one state to the next. -/
structure MatchState.Kept (state next : MatchState) : Prop where
  captures : next.captures = state.captures
  subject : next.subject = state.subject

theorem MatchState.Kept.describes {state next : MatchState} (h : state.Kept next)
    {last : Option String} (hstate : state.Describes last) : next.Describes last := by
  unfold Describes
  rw [h.captures, h.subject]
  exact hstate

/-! ## One search -/

namespace Searcher

variable {searcher : Searcher} {subject : Subject} {keepPosition : Bool} {state next : MatchState}

/-- A span comes from the bytes of its group. -/
theorem exists_group_of_span? {groups : Pattern.ByteGroups} {group : Nat} {span : Span}
    (h : (subject.spans groups).span? group = some span) :
    ∃ first last, some (first, last) ∈ groups ∧
      span = ⟨subject.charIndex first, subject.charIndex last⟩ := by
  have hget : (subject.spans groups)[group]? = some (some span) := Option.join_eq_some_iff.1 h
  obtain ⟨found, hfound, hspan⟩ := List.mem_map.1 (List.mem_of_getElem? hget)
  obtain ⟨⟨first, last⟩, rfl, rfl⟩ := Option.map_eq_some_iff.1 hspan
  exact ⟨first, last, hfound, rfl⟩

/-- **What is found are ranges of the subject.** -/
theorem Bounded.find (bounded : searcher.Bounded) {start : Nat} {allowEmpty : Bool}
    {captures : Captures} (h : searcher.find subject start allowEmpty = some captures) :
    ∀ group span, captures.span? group = some span →
      span.start ≤ span.stop ∧ span.stop ≤ subject.text.length := by
  obtain ⟨place, groups, hplace, rfl, hfound⟩ := exists_groups_of_find h
  have hgroups : groups.Bounded subject.text :=
    hfound.elim (bounded.capturesAt hplace) (bounded.nonemptyAt hplace)
  intro group span hspan
  obtain ⟨first, last, hmem, rfl⟩ := exists_group_of_span? hspan
  obtain ⟨hle, hfirst, hlast⟩ := hgroups first last hmem
  refine ⟨Subject.charIndex_le_charIndex hfirst hlast hle, ?_⟩
  rw [← String.length_toList, ← Subject.charLength_eq]
  exact Subject.charIndex_le_charLength hlast

/-- A state that notes what was found describes the subject. -/
theorem Bounded.describes (bounded : searcher.Bounded) {start : Nat} {allowEmpty : Bool}
    (h : searcher.find subject start allowEmpty = some next.captures)
    (hsubject : next.subject = subject) : next.Describes (some subject.text) := by
  intro group span hspan
  rw [hsubject]
  exact ⟨rfl, bounded.find h group span hspan⟩

/-! ## Steps -/

theorem Bounded.globalStep (bounded : searcher.Bounded)
    (h : searcher.globalStep subject keepPosition state = (true, next)) :
    next.Describes (some subject.text) := by
  obtain ⟨captures, hfind, hmoved, hsubject⟩ := moved_of_globalStep h
  rw [← hmoved.captures] at hfind
  exact bounded.describes hfind hsubject

theorem kept_of_globalStep
    (h : searcher.globalStep subject keepPosition state = (false, next)) : state.Kept next := by
  unfold globalStep at h
  dsimp only at h
  split at h
  · exact absurd h (by simp)
  · obtain ⟨-, rfl⟩ := Prod.mk.inj h
    exact ⟨rfl, rfl⟩

/-- Steps up to one that fails describe the subject if there was a match, and else capture
nothing. -/
theorem Steps.describes (bounded : searcher.Bounded) {found : List MatchState} {last : MatchState}
    (steps : searcher.Steps subject keepPosition state found last) :
    (found ≠ [] → last.Describes (some subject.text)) ∧ (found = [] → state.Kept last) := by
  induction steps with
  | fails step => exact ⟨fun hne => absurd rfl hne, fun _ => kept_of_globalStep step⟩
  | @finds state next last found step rest ih =>
    refine ⟨fun _ => ?_, fun hnil => absurd hnil (by simp)⟩
    by_cases hnil : found = []
    · exact (ih.2 hnil).describes (bounded.globalStep step)
    · exact ih.1 hnil

/-! ## Answers -/

/-- A match with a span captures something. -/
theorem texts_ne_nil {captures : Captures} {span : Span} (h : captures.span? 0 = some span)
    (subject : Subject) : captures.texts subject ≠ [] := by
  cases captures with
  | nil => exact absurd h (by simp [Captures.span?])
  | cons whole groups =>
    obtain rfl : whole = some span := by simpa [Captures.span?] using h
    cases groups <;> simp [Captures.texts]

/-- The steps up to one that fails captured something if one of them succeeds. -/
theorem Steps.isEmpty_texts (sound : searcher.Sound) {found : List MatchState} {last : MatchState}
    (steps : searcher.Steps subject keepPosition state found last) :
    (found.flatMap fun next => next.captures.texts subject).isEmpty = found.isEmpty := by
  cases steps with
  | fails _ => rfl
  | finds step _ =>
    obtain ⟨span, hspan, -⟩ := sound.globalStep step
    rw [List.flatMap_cons, List.isEmpty_cons, List.isEmpty_eq_false_iff]
    simp [texts_ne_nil hspan]

/-- A global match that matches describes its text, and one that does not captures nothing. -/
theorem answerGlobal_describes (sound : searcher.Sound) (bounded : searcher.Bounded)
    (text : String) (keepPosition : Bool) (context : Context) (state : MatchState) :
    let answer := searcher.answerGlobal text keepPosition context state
    (answer.1.isMatch = true → answer.2.Describes (some text)) ∧
      (answer.1.isMatch = false → state.Kept answer.2) := by
  have hscalar : ∀ {matched : Bool} {next : MatchState},
      searcher.globalStep (.ofText text) keepPosition state = (matched, next) →
        (matched = true → next.Describes (some text)) ∧
          (matched = false → state.Kept next) := by
    intro matched next hstep
    cases matched with
    | true => exact ⟨fun _ => bounded.globalStep hstep, fun h => absurd h (by simp)⟩
    | false => exact ⟨fun h => absurd h (by simp), fun _ => kept_of_globalStep hstep⟩
  cases context with
  | void => exact hscalar rfl
  | scalar => exact hscalar rfl
  | list =>
    obtain ⟨found, last, steps⟩ : ∃ found last,
        searcher.Steps (.ofText text) keepPosition state found last :=
      sound.exists_steps state
    have hdescribes := steps.describes bounded
    simp only [answerGlobal, steps.collect_eq sound, MatchOutcome.isMatch, List.isEmpty_map,
      steps.isEmpty_texts sound]
    exact ⟨fun h => hdescribes.1 (by simpa using h), fun h => hdescribes.2 (by simpa using h)⟩

/-- A match outside any stream notes what it found, or finds nothing and changes nothing. -/
theorem answerOnce_cases (searcher : Searcher) (text : String) (context : Context)
    (state : MatchState) :
    ((searcher.answerOnce text context state).1.isMatch = false ∧
      (searcher.answerOnce text context state).2 = state) ∨
    ∃ captures, searcher.find (.ofText text) 0 true = some captures ∧
      (searcher.answerOnce text context state).1.isMatch = true ∧
      (searcher.answerOnce text context state).2 = state.record (.ofText text) captures := by
  unfold answerOnce
  cases hfind : searcher.find (.ofText text) 0 true with
  | none =>
    left
    have hnothing : searcher.matchAnywhere text state = (none, state) := by
      simp only [matchAnywhere, hfind]
    rw [hnothing]
    cases context <;> exact ⟨rfl, rfl⟩
  | some captures =>
    have hfound : searcher.matchAnywhere text state =
        (some captures, state.record (.ofText text) captures) := by
      simp only [matchAnywhere, hfind]
    rw [hfound]
    refine .inr ⟨captures, rfl, ?_⟩
    cases context with
    | void => exact ⟨rfl, rfl⟩
    | scalar => exact ⟨rfl, rfl⟩
    | list =>
      -- With a group there is an entry for it, and without one the answer is 1.
      cases captures with
      | nil => exact ⟨rfl, rfl⟩
      | cons whole groups => cases groups <;> exact ⟨rfl, rfl⟩

end Searcher

/-! ## One call -/

namespace MatchCall

/-- The text that a call is about. -/
def subjectText (world : World) : MatchCall → String
  | global _ _ v _ | value _ _ v _ => (world.text v).value
  | text _ subject _ _ => subject

/-- Whether the call is a match of a value. -/
def isValue : MatchCall → Bool
  | value _ _ _ _ => true
  | global _ _ _ _ | text _ _ _ _ => false

/-- What a call makes of a state, by whether it matched. -/
structure Captured (call : MatchCall) (world : World) (state : MatchState) (matched : Bool)
    (next : MatchState) : Prop where
  describes : matched = true → next.Describes (some (call.subjectText world))
  kept : matched = false → state.Kept next
  unchanged : matched = false → call.isGlobal = false → next = state
  aside : call.isValue = true → call.isGlobal = false →
    next.position = state.position ∧ next.status = state.status ∧ next.emptyAt = state.emptyAt

variable {state : MatchState} {world : World}

/-- A call that is a global match captures what the stream matched, and is neither of the others. -/
theorem captured_global (call : MatchCall) {pattern : CompiledPattern}
    (sound : pattern.searcher.Sound) (bounded : pattern.searcher.Bounded) (modifiers : Modifiers)
    (v : Value) (context : Context) (state : MatchState) (hglobal : call.isGlobal = true)
    (hsubject : call.subjectText world = (world.text v).value) :
    ∃ answer next,
      (Action.matchGlobal pattern modifiers v context state).outcome world = .ok (answer, next) ∧
        call.Captured world state answer.isMatch next := by
  have hnever : ∀ {P : Prop}, call.isGlobal = false → P := fun h => absurd hglobal (by simp [h])
  rw [Action.matchGlobal, Action.outcome_streamMatch]
  cases state.isExhausted with
  | true =>
    refine ⟨_, _, rfl, fun h => ?_, fun _ => ⟨rfl, rfl⟩, fun _ => hnever, fun _ => hnever⟩
    cases context <;> exact absurd h (by simp [MatchOutcome.failure, MatchOutcome.isMatch])
  | false =>
    have hcaptured := Searcher.answerGlobal_describes sound bounded (world.text v).value
      (modifiers.union pattern.modifiers).keepPosition context state
    simp only [Bool.false_eq_true, if_false]
    generalize pattern.searcher.answerGlobal (world.text v).value
      (modifiers.union pattern.modifiers).keepPosition context state = answer at hcaptured ⊢
    obtain ⟨hdescribes, hkept⟩ := hcaptured
    refine ⟨answer.1, answer.2, rfl, ?_, hkept, fun _ => hnever, fun _ => hnever⟩
    rw [hsubject]
    exact hdescribes

/-- A call that found nothing and left the state as it was. -/
theorem captured_nothing (call : MatchCall) (world : World) (state : MatchState) :
    call.Captured world state false state where
  describes h := absurd h (by simp)
  kept _ := ⟨rfl, rfl⟩
  unchanged _ _ := rfl
  aside _ _ := ⟨rfl, rfl, rfl⟩

/-- A call that noted what a search found. -/
theorem captured_found (call : MatchCall) {searcher : Searcher} (bounded : searcher.Bounded)
    {start : Nat} {allowEmpty : Bool} {next : MatchState}
    (hfind : searcher.find (.ofText (call.subjectText world)) start allowEmpty =
      some next.captures)
    (hsubject : next.subject = .ofText (call.subjectText world))
    (haside : call.isValue = true → call.isGlobal = false → next.position = state.position ∧
      next.status = state.status ∧ next.emptyAt = state.emptyAt) :
    call.Captured world state true next where
  describes _ := bounded.describes hfind hsubject
  kept h := absurd h (by simp)
  unchanged h := absurd h (by simp)
  aside := haside

/-- A match of a value that is not global. -/
theorem captured_once {pattern : CompiledPattern} (bounded : pattern.searcher.Bounded)
    {modifiers : Modifiers} (v : Value) (context : Context) (state : MatchState) (world : World)
    (hglobal : (modifiers.union pattern.modifiers).isGlobal = false) :
    ∃ matched next, ((value pattern modifiers v context).run state).outcome world =
        .ok (matched, next) ∧
      (value pattern modifiers v context).Captured world state matched next := by
  have houtcome : ((value pattern modifiers v context).run state).outcome world =
      .ok ((pattern.searcher.answerOnce (world.text v).value context state).1.isMatch,
        (pattern.searcher.answerOnce (world.text v).value context state).2) := by
    rw [run, Action.matchValue, if_neg (by simp [hglobal]), Action.outcome_map,
      Action.outcome_singleMatch]
    rfl
  rcases Searcher.answerOnce_cases pattern.searcher (world.text v).value context state with
    ⟨hfails, hstate⟩ | ⟨captures, hfind, hmatches, hstate⟩
  · rw [hfails, hstate] at houtcome
    exact ⟨_, _, houtcome, captured_nothing _ _ _⟩
  · rw [hmatches, hstate] at houtcome
    exact ⟨_, _, houtcome, captured_found _ bounded hfind rfl
      fun _ _ => ⟨rfl, rfl, rfl⟩⟩

/-- A match of a text. -/
theorem captured_text {pattern : CompiledPattern} (bounded : pattern.searcher.Bounded)
    (subject : String) (start : Nat) (allowEmpty : Bool) (state : MatchState) (world : World) :
    ∃ matched next, ((text pattern subject start allowEmpty).run state).outcome world =
        .ok (matched, next) ∧
      (text pattern subject start allowEmpty).Captured world state matched next := by
  have houtcome : ((text pattern subject start allowEmpty).run state).outcome world =
      .ok (pattern.searcher.matchText subject start allowEmpty state) := rfl
  unfold Searcher.matchText at houtcome
  dsimp only at houtcome
  cases hfind : pattern.searcher.find (.ofText subject) start allowEmpty with
  | none =>
    rw [hfind] at houtcome
    exact ⟨_, _, houtcome, captured_nothing _ _ _⟩
  | some captures =>
    rw [hfind] at houtcome
    exact ⟨_, _, houtcome, captured_found _ bounded hfind rfl
      fun h => absurd h (by simp [isValue])⟩

/-- **Every call has an outcome, and captures what it matched.** -/
theorem exists_captured (call : MatchCall) (sound : call.pattern.searcher.Sound)
    (bounded : call.pattern.searcher.Bounded) (state : MatchState) (world : World) :
    ∃ matched next, (call.run state).outcome world = .ok (matched, next) ∧
      call.Captured world state matched next := by
  cases call with
  | global pattern modifiers v context =>
    obtain ⟨answer, next, houtcome, hcaptured⟩ := captured_global
      (global pattern modifiers v context) sound bounded modifiers v context state rfl rfl
    refine ⟨_, _, ?_, hcaptured⟩
    rw [run, Action.outcome_map]
    exact congrArg (Except.map _) houtcome
  | value pattern modifiers v context =>
    cases hglobal : (modifiers.union pattern.modifiers).isGlobal with
    | true =>
      obtain ⟨answer, next, houtcome, hcaptured⟩ := captured_global
        (value pattern modifiers v context) sound bounded modifiers v context state hglobal rfl
      refine ⟨_, _, ?_, hcaptured⟩
      rw [run, Action.matchValue, if_pos hglobal, Action.outcome_map]
      exact congrArg (Except.map _) houtcome
    | false => exact captured_once bounded v context state world hglobal
  | text pattern subject start allowEmpty =>
    exact captured_text bounded subject start allowEmpty state world

end MatchCall

/-! ## Call after call -/

namespace MatchState

/-- The states that calls, moves of the position and resets lead to, each with the text of the last
call that matched. A fresh state, with a position or without one, has matched nothing. -/
inductive Reached : MatchState → Option String → Prop where
  | ofPosition (position : Option Nat) : Reached (.ofPosition position) none
  | call {state next : MatchState} {last : Option String} {call : MatchCall} {world : World}
      {matched : Bool} (reached : Reached state last)
      (made : (call.run state).outcome world = .ok (matched, next))
      (sound : call.pattern.searcher.Sound) (bounded : call.pattern.searcher.Bounded) :
      Reached next (if matched then some (call.subjectText world) else last)
  | setPosition {state : MatchState} {last : Option String} (reached : Reached state last)
      (position : Option Nat) : Reached (state.setPosition position) last
  | reset {state : MatchState} {last : Option String} (reached : Reached state last) :
      Reached {} none

theorem ofPosition_describes (position : Option Nat) (last : Option String) :
    (ofPosition position).Describes last := by
  intro group span hspan
  exact absurd hspan (by simp [ofPosition, Captures.span?])

/-- What a call captured describes its text, and what it did not capture describes the text from
before. -/
theorem describes_of_captured {call : MatchCall} {world : World} {state next : MatchState}
    {matched : Bool} {last : Option String} (captured : call.Captured world state matched next)
    (hstate : state.Describes last) :
    next.Describes (if matched then some (call.subjectText world) else last) := by
  cases matched with
  | true => exact captured.describes rfl
  | false => exact (captured.kept rfl).describes hstate

/-- **The spans of a state are ranges of the text that was matched last.** -/
theorem Reached.describes {state : MatchState} {last : Option String}
    (reached : state.Reached last) : state.Describes last := by
  induction reached with
  | ofPosition position => exact ofPosition_describes position none
  | @call state next last call world matched _ made sound bounded ih =>
    obtain ⟨matched', next', houtcome, captured⟩ :=
      call.exists_captured sound bounded state world
    obtain ⟨rfl, rfl⟩ := Prod.mk.inj (Except.ok.inj (houtcome.symm.trans made))
    exact describes_of_captured captured ih
  | setPosition _ position ih => exact ih
  | reset _ _ => exact ofPosition_describes none none

/-! ## The texts of a match -/

variable {state : MatchState} {last : Option String}

/-- The text of a group is that of its span. -/
theorem Describes.group (h : state.Describes last) {group : Nat} {span : Span}
    (hspan : state.captures.span? group = some span) :
    ∃ text, last = some text ∧ span.start ≤ span.stop ∧ span.stop ≤ text.length ∧
      state.group? group =
        some (String.ofList ((text.toList.take span.stop).drop span.start)) := by
  obtain ⟨hlast, hle, hstop⟩ := h group span hspan
  refine ⟨state.subject.text, hlast, hle, hstop, ?_⟩
  rw [group?, hspan, Option.map_some, Subject.slice_eq]

/-- What is before a match, the match and what is after it are the text. -/
theorem Describes.whole (h : state.Describes last) {span : Span}
    (hspan : state.captures.span? 0 = some span) :
    ∃ text before matched after, last = some text ∧ state.preMatch? = some before ∧
      state.group? 0 = some matched ∧ state.postMatch? = some after ∧
      before ++ matched ++ after = text := by
  obtain ⟨hlast, hle, hstop⟩ := h 0 span hspan
  refine ⟨state.subject.text, state.subject.slice 0 span.start,
    state.subject.slice span.start span.stop,
    state.subject.slice span.stop state.subject.charLength, hlast, ?_, ?_, ?_, ?_⟩
  · rw [preMatch?, hspan, Option.map_some]
  · rw [group?, hspan, Option.map_some]
  · rw [postMatch?, hspan, Option.map_some]
  · have hlength : span.stop ≤ state.subject.charLength := by
      rw [Subject.charLength_eq, String.length_toList]
      exact hstop
    calc state.subject.slice 0 span.start ++ state.subject.slice span.start span.stop ++
          state.subject.slice span.stop state.subject.charLength
        = state.subject.slice 0 span.stop ++
            state.subject.slice span.stop state.subject.charLength := by
          rw [Subject.slice_append_slice _ hle]
      _ = state.subject.slice 0 state.subject.charLength :=
          Subject.slice_append_slice _ hlength
      _ = state.subject.text := Subject.slice_all _

/-- **Captures describe the text that they were taken from.** In a state that calls about any texts,
moves of the position and resets led to, a match, what is before it and what is after it are the
text of the last call that matched, and every group is a range of its characters. A call from there
on that does not match captures nothing and, unless it is a global match, changes nothing; a match of
a value that is not global leaves the stream alone. -/
theorem captures_describe (reached : state.Reached last) :
    (∀ whole, state.captures.span? 0 = some whole →
      ∃ text before matched after, last = some text ∧ state.preMatch? = some before ∧
        state.group? 0 = some matched ∧ state.postMatch? = some after ∧
        before ++ matched ++ after = text) ∧
    (∀ group span, state.captures.span? group = some span →
      ∃ text, last = some text ∧ span.start ≤ span.stop ∧ span.stop ≤ text.length ∧
        state.group? group =
          some (String.ofList ((text.toList.take span.stop).drop span.start))) ∧
    (∀ (searcher : Searcher) subject keepPosition next,
      searcher.globalStep subject keepPosition state = (false, next) →
        next.captures = state.captures ∧ next.subject = state.subject) ∧
    ∀ (call : MatchCall) (world : World), call.pattern.searcher.Sound →
      call.pattern.searcher.Bounded →
      ∃ matched next, (call.run state).outcome world = .ok (matched, next) ∧
        (matched = false → next.captures = state.captures ∧ next.subject = state.subject) ∧
        (matched = false → call.isGlobal = false → next = state) ∧
        (call.isValue = true → call.isGlobal = false →
          next.position = state.position ∧ next.status = state.status ∧
            next.emptyAt = state.emptyAt) := by
  have hdescribes := reached.describes
  refine ⟨fun _ => hdescribes.whole, fun _ _ => hdescribes.group, ?_, ?_⟩
  · intro searcher subject keepPosition next hstep
    have hkept : state.Kept next := Searcher.kept_of_globalStep hstep
    exact ⟨hkept.captures, hkept.subject⟩
  · intro call world sound bounded
    obtain ⟨matched, next, houtcome, captured⟩ := call.exists_captured sound bounded state world
    refine ⟨matched, next, houtcome, ?_, captured.unchanged, captured.aside⟩
    intro hfails
    exact ⟨(captured.kept hfails).captures, (captured.kept hfails).subject⟩

/-- A global match finds `b` in `ba`, a match of the text `xa` finds `a`, and a global match of `c`
finds nothing: the captures are still those of `xa`. -/
theorem captures_describe_threeTexts :
    ∃ state, Reached state (some "xa") ∧
      state.preMatch? = some "x" ∧ state.group? 0 = some "a" ∧ state.group? 1 = some "a" ∧
      state.postMatch? = some "" ∧
      ∃ text before matched after, some "xa" = some text ∧ state.preMatch? = some before ∧
        state.group? 0 = some matched ∧ state.postMatch? = some after ∧
        before ++ matched ++ after = text := by
  obtain ⟨sound, bounded, -⟩ := CompiledPattern.lawful_aOrB
  have hglobal : ((MatchCall.global .aOrB {} ⟨0⟩ .scalar).run (.ofPosition none)).outcome
      (.ofText "ba") =
      .ok (true, ⟨some 1, [some ⟨0, 1⟩, none], .ready, none, .ofText "ba"⟩) := by cbv
  have htext : ((MatchCall.text .aOrB "xa" 0 true).run
      ⟨some 1, [some ⟨0, 1⟩, none], .ready, none, .ofText "ba"⟩).outcome (.ofText "") =
      .ok (true, ⟨some 2, [some ⟨1, 2⟩, some ⟨1, 2⟩], .ready, none, .ofText "xa"⟩) := by cbv
  have hfails : ((MatchCall.global .aOrB {} ⟨0⟩ .scalar).run
      ⟨some 2, [some ⟨1, 2⟩, some ⟨1, 2⟩], .ready, none, .ofText "xa"⟩).outcome (.ofText "c") =
      .ok (false, ⟨none, [some ⟨1, 2⟩, some ⟨1, 2⟩], .exhausted, none, .ofText "xa"⟩) := by cbv
  have reached : Reached _ (some "xa") :=
    .call (.call (.call (.ofPosition none) hglobal sound bounded) htext sound bounded) hfails
      sound bounded
  have hwhole := (captures_describe reached).1 ⟨1, 2⟩ rfl
  refine ⟨_, reached, ?_, ?_, ?_, ?_, hwhole⟩ <;> cbv

end MatchState

end DynamicValues
