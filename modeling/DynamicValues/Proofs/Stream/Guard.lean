import DynamicValues.Proofs.Stream.Calls

/-!
# What guards against finding an empty match again

A global match must not find an empty match where the one before it was empty, so it notes where it
was (`MatchState.emptyAt`). The other matches neither make such a note nor take it back, though a
match of a text moves the position. So whatever calls a state went through, the note tells about the
**last global match** (`Calls.emptyAt_eq`), and the next one passes over an empty match at the
position exactly if that one was empty there (`Action.matchGlobal_after_calls`).

Where the position is owed to a match of a text this is not about the last match at all
(`Action.matchText_unguarded`): the empty match that a match of a text found is found again, and one
that was found before it is still passed over.
-/

set_option autoImplicit false

namespace DynamicValues

/-- The span that a global match found. -/
def MatchReport.globalSpan? (report : MatchReport) : Option Span :=
  if report.call.isGlobal && report.matched then report.state.captures.span? 0 else none

/-- The span that the last global match found, if one did. -/
def lastGlobal? (reports : List MatchReport) : Option Span :=
  (reports.filterMap MatchReport.globalSpan?).getLast?

/-- Where the last match was empty; `before` is told where there was none. -/
def emptyPlace? (before : Option Nat) : Option Span → Option Nat
  | some span => if span.isEmpty then some span.stop else none
  | none => before

theorem lastGlobal?_cons (report : MatchReport) (reports : List MatchReport) :
    lastGlobal? (report :: reports) = (lastGlobal? reports).or report.globalSpan? := by
  unfold lastGlobal?
  cases h : report.globalSpan? with
  | none => simp [h]
  | some span => simp [h, List.getLast?_cons, Option.or_some]

theorem emptyPlace?_or (before : Option Nat) (first second : Option Span) :
    emptyPlace? before (second.or first) = emptyPlace? (emptyPlace? before first) second := by
  cases second <;> rfl

/-! ## The note -/

/-- One call notes where it was empty if it was a global match, and nothing otherwise. -/
theorem MatchCall.emptyAt_eq {call : MatchCall} (sound : call.pattern.searcher.Sound)
    {state next : MatchState} {world : World} {matched : Bool}
    (made : (call.run state).outcome world = .ok (matched, next))
    (ready : next.isExhausted = false) :
    next.emptyAt =
      emptyPlace? state.emptyAt (MatchReport.globalSpan? ⟨call, matched, next⟩) := by
  rcases run_cases made with ⟨hglobal, hstreamed⟩ | ⟨hglobal, haside⟩
  · cases hstreamed with
    | stays _ => simp [MatchReport.globalSpan?, emptyPlace?]
    | steps _ step =>
      cases matched with
      | true =>
        obtain ⟨span, hspan, -, -, hempty, -⟩ := sound.globalStep step
        simp [MatchReport.globalSpan?, hglobal, hspan, emptyPlace?, hempty]
      | false => exact absurd (Searcher.isExhausted_of_globalStep step) (by simp [ready])
    | @collects subject keepPosition _ _ =>
      -- A loop that collects comes to an end only where the stream is exhausted.
      obtain ⟨found, last, steps⟩ : ∃ found last,
        call.pattern.searcher.Steps subject keepPosition state found last :=
        sound.exists_steps state
      rw [steps.collect_eq sound] at ready
      exact absurd steps.isExhausted_last (by simp [ready])
  · simp [MatchReport.globalSpan?, hglobal, emptyPlace?, haside.emptyAt]

/-- **The note tells about the last global match**, whatever calls came between. -/
theorem Calls.emptyAt_eq {state after : MatchState} {reports : List MatchReport}
    (calls : Calls state reports after)
    (sound : ∀ report ∈ reports, report.call.pattern.searcher.Sound)
    (ready : after.isExhausted = false) :
    after.emptyAt = emptyPlace? state.emptyAt (lastGlobal? reports) := by
  induction calls with
  | nil _ => rfl
  | @cons call state next last world matched reports made rest ih =>
    obtain ⟨hcall, hrest⟩ := List.forall_mem_cons.1 sound
    have hready : next.isExhausted = false := by
      cases hnext : next.isExhausted with
      | false => rfl
      | true => exact absurd (rest.isExhausted hnext) (by simp [ready])
    rw [ih hrest ready, MatchCall.emptyAt_eq hcall made hready, lastGlobal?_cons, emptyPlace?_or]

namespace Action

/-- **What a global match finds at the position after other calls.** It does not find an empty match
there if the last global match was empty there; and an empty match there that the pattern finds first
is found exactly if the last global match was not. -/
theorem matchGlobal_after_calls {state after : MatchState} {reports : List MatchReport}
    (calls : Calls state reports after)
    (sound : ∀ report ∈ reports, report.call.pattern.searcher.Sound)
    (ready : after.isExhausted = false) {place : Nat} (hplace : after.position.getD 0 = place)
    {pattern : CompiledPattern} (hpattern : pattern.searcher.Sound) (modifiers : Modifiers)
    (v : Value) (world : World) :
    ∃ matched next,
      (matchGlobal pattern modifiers v .scalar after).outcome world =
        .ok (.scalar matched, next) ∧
      (emptyPlace? state.emptyAt (lastGlobal? reports) = some place →
        ¬ (matched = true ∧ next.captures.span? 0 = some ⟨place, place⟩)) ∧
      ∀ captures : Captures,
        pattern.searcher.find (.ofText (world.text v).value) place true = some captures →
        captures.span? 0 = some ⟨place, place⟩ →
          ((matched = true ∧ next.captures = captures) ↔
            emptyPlace? state.emptyAt (lastGlobal? reports) ≠ some place) := by
  have hnote := calls.emptyAt_eq sound ready
  rcases hstep : pattern.searcher.globalStep (.ofText (world.text v).value)
    (modifiers.union pattern.modifiers).keepPosition after with ⟨matched, next⟩
  have hpassed : emptyPlace? state.emptyAt (lastGlobal? reports) = some place →
      ¬ (matched = true ∧ next.captures.span? 0 = some ⟨place, place⟩) := by
    rintro hempty ⟨rfl, hspan⟩
    obtain ⟨span, hspan', -, -, -, hgrows⟩ := hpattern.globalStep hstep
    obtain rfl := Option.some.inj (hspan'.symm.trans hspan)
    rcases hgrows with hlt | ⟨hfresh, -⟩
    · exact absurd hlt (by simp [hplace])
    · exact hfresh (by rw [hnote, hempty, hplace])
  refine ⟨matched, next, (matchGlobal_scalar_iff ready rfl).2 hstep, hpassed, ?_⟩
  intro captures hfind hspan
  constructor
  · rintro ⟨hmatched, rfl⟩ hempty
    exact hpassed hempty ⟨hmatched, hspan⟩
  · -- Nothing is noted at the position, so the search is the one that admits empty matches.
    intro hempty
    have hnext : pattern.searcher.findNext (.ofText (world.text v).value) after =
        some captures := by
      have hallow : (after.emptyAt != some place) = true := by simpa [hnote] using hempty
      rw [Searcher.findNext, hplace, hallow, hfind]
    obtain ⟨found, hfound, hmoved⟩ := Searcher.globalStep_of_some hnext
      (modifiers.union pattern.modifiers).keepPosition
    obtain ⟨rfl, rfl⟩ := Prod.mk.inj (hstep.symm.trans hfound)
    exact ⟨rfl, hmoved.captures⟩

/-- In `a` the first global match of `(|a)` is empty, so the second is not empty at that place. -/
theorem matchGlobal_after_calls_emptyOrA :
    CompiledPattern.emptyOrA.searcher.Sound ∧
    ∃ after, Calls {} [⟨.global .emptyOrA {} ⟨0⟩ .scalar, true, after⟩] after ∧
      after.isExhausted = false ∧ after.position.getD 0 = 0 ∧
      emptyPlace? none (lastGlobal? [⟨.global .emptyOrA {} ⟨0⟩ .scalar, true, after⟩]) = some 0 ∧
      ∃ matched next,
        (matchGlobal .emptyOrA {} ⟨0⟩ .scalar after).outcome (.ofText "a") =
          .ok (.scalar matched, next) ∧
        ¬ (matched = true ∧ next.captures.span? 0 = some ⟨0, 0⟩) := by
  have made : ((MatchCall.global .emptyOrA {} ⟨0⟩ .scalar).run {}).outcome (.ofText "a") =
      .ok (true, ⟨some 0, [some ⟨0, 0⟩, some ⟨0, 0⟩], .ready, some 0, .ofText "a"⟩) := by cbv
  have calls := Calls.cons made (.nil _)
  obtain ⟨matched, next, hcall, hpassed, -⟩ := matchGlobal_after_calls calls
    (List.forall_mem_singleton.2 CompiledPattern.lawful_emptyOrA.sound) rfl rfl
    CompiledPattern.lawful_emptyOrA.sound {} ⟨0⟩ (.ofText "a")
  exact ⟨CompiledPattern.lawful_emptyOrA.sound, _, calls, rfl, rfl, rfl, matched, next, hcall,
    hpassed rfl⟩

/-- **Matches of a text do not count.** A match of a text that is empty where the next global match
begins is found again; and where a global match was empty nothing empty is found, although a match of
a text that is not empty ended there since. -/
theorem matchText_unguarded :
    CompiledPattern.emptyOrA.searcher.Sound ∧
    (∃ after next,
      Calls {} [⟨.text .emptyOrA "a" 0 true, true, after⟩] after ∧
      after.isExhausted = false ∧ after.position = some 0 ∧
      after.captures.span? 0 = some ⟨0, 0⟩ ∧
      (matchGlobal .emptyOrA {} ⟨0⟩ .scalar after).outcome (.ofText "a") =
        .ok (.scalar true, next) ∧
      next.captures.span? 0 = some ⟨0, 0⟩) ∧
    ∃ first after next,
      Calls (.ofPosition (some 1))
        [⟨.global .emptyOrA {} ⟨0⟩ .scalar, true, first⟩, ⟨.text .emptyOrA "a" 0 false, true, after⟩]
        after ∧
      after.isExhausted = false ∧ after.position = some 1 ∧
      after.captures.span? 0 = some ⟨0, 1⟩ ∧
      CompiledPattern.emptyOrA.searcher.find (.ofText "a") 1 true =
        some [some ⟨1, 1⟩, some ⟨1, 1⟩] ∧
      (matchGlobal .emptyOrA {} ⟨0⟩ .scalar after).outcome (.ofText "a") =
        .ok (.scalar false, next) := by
  have htext : ((MatchCall.text .emptyOrA "a" 0 true).run {}).outcome (.ofText "a") =
      .ok (true, ⟨some 0, [some ⟨0, 0⟩, some ⟨0, 0⟩], .ready, none, .ofText "a"⟩) := by cbv
  have hglobal : ((MatchCall.global .emptyOrA {} ⟨0⟩ .scalar).run
        (.ofPosition (some 1))).outcome (.ofText "a") =
      .ok (true, ⟨some 1, [some ⟨1, 1⟩, some ⟨1, 1⟩], .ready, some 1, .ofText "a"⟩) := by cbv
  have hlonger : ((MatchCall.text .emptyOrA "a" 0 false).run
        ⟨some 1, [some ⟨1, 1⟩, some ⟨1, 1⟩], .ready, some 1, .ofText "a"⟩).outcome (.ofText "a") =
      .ok (true, ⟨some 1, [some ⟨0, 1⟩, some ⟨0, 1⟩], .ready, some 1, .ofText "a"⟩) := by cbv
  refine ⟨CompiledPattern.lawful_emptyOrA.sound, ?_, ?_⟩
  · refine ⟨_, ⟨some 0, [some ⟨0, 0⟩, some ⟨0, 0⟩], .ready, some 0, .ofText "a"⟩,
      .cons htext (.nil _), rfl, rfl, rfl, ?_, rfl⟩
    cbv
  · refine ⟨_, _, ⟨none, [some ⟨0, 1⟩, some ⟨0, 1⟩], .exhausted, none, .ofText "a"⟩,
      .cons hglobal (.cons hlonger (.nil _)), rfl, rfl, rfl, ?_, ?_⟩
    · cbv
    · cbv

end Action

end DynamicValues
