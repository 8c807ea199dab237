import Mathlib
import DynamicValues.Proofs.Pattern.Groups
import DynamicValues.Proofs.Stream.Threaded

/-!
# Streams of matches come to an end

`Searcher.Steps` are the global steps from a state on, up to the first that fails. With a sound
searcher there always is one (`Searcher.steps_progress`): the matches follow each other through the
subject, and each ends later than the one before, or ends where that one ended and is empty while
that one was not.

The count behind it is `MatchState.credit`, the number of steps that may still succeed: two for each
character that is left, and one more as long as an empty match may be found at the position. A step
that succeeds takes at least one of them (`credit_lt_of_globalStep`).
-/

set_option autoImplicit false

namespace DynamicValues

/-- A span of a subject that does not begin before `start`. -/
structure Span.Within (subject : Subject) (start : Nat) (span : Span) : Prop where
  start_le : start ≤ span.start
  le_stop : span.start ≤ span.stop
  stop_le : span.stop ≤ subject.charLength

/-- How one match of a stream comes before the next: they do not overlap, they are not both empty at
one place, and the ends grow, an empty match counting more than another one with the same end. -/
structure Span.Before (first second : Span) : Prop where
  apart : first.stop ≤ second.start
  fresh : ¬ (first.isEmpty = true ∧ second.isEmpty = true ∧ first.start = second.start)
  grows : Prod.Lex (· < ·) (· < ·) (first.stop, first.isEmpty) (second.stop, second.isEmpty)

/-- The pattern `(|a)`, which prefers the empty match to the letter. -/
def CompiledPattern.emptyOrA : CompiledPattern :=
  .ofNode "(|a)" {} (.group 1 (.choice .empty (.chars (.ofRange 97 97))))

theorem CompiledPattern.compile_emptyOrA : compile .lockstep 1000 "(|a)" {} = .ok emptyOrA := rfl

theorem CompiledPattern.lawful_emptyOrA : emptyOrA.Lawful :=
  Engine.lawful_lockstep compile_emptyOrA

namespace Searcher

variable {searcher : Searcher} {subject : Subject} {keepPosition : Bool}

/-! ## One search -/

theorem span?_of_whole {start place origin first last : Nat} {groups : Pattern.ByteGroups}
    (hplace : subject.byteAt? start = some place) (horigin : place ≤ origin)
    (h : groups.Whole subject.text origin first last) :
    (subject.spans groups).span? 0 =
        some ⟨subject.charIndex first, subject.charIndex last⟩ ∧
      Span.Within subject start ⟨subject.charIndex first, subject.charIndex last⟩ := by
  have hstart : subject.charIndex place = start := Subject.charIndex_byteAt? hplace
  refine ⟨by rw [span?_spans, h.head]; rfl, ?_, ?_, ?_⟩
  · rw [← hstart]
    exact Subject.charIndex_le_charIndex (Subject.isPlace_of_byteAt? hplace) h.isPlace
      (Nat.le_trans horigin h.origin_le)
  · exact Subject.charIndex_le_charIndex h.isPlace h.isPlace_last h.first_le
  · exact Subject.charIndex_le_charLength h.isPlace_last

/-- Where a match that is found comes from. -/
inductive Found (searcher : Searcher) (subject : Subject) (start : Nat) (allowEmpty : Bool) :
    Captures → Prop where
  | first {place first last : Nat} {groups : Pattern.ByteGroups}
      (hplace : subject.byteAt? start = some place)
      (found : searcher.capturesAt subject.text place = some groups)
      (whole : groups.head?.join = some (first, last))
      (wanted : first = place → first = last → allowEmpty = true) :
      Found searcher subject start allowEmpty (subject.spans groups)
  /-- Nothing empty was wanted at the start, and something longer is there. -/
  | longer {place : Nat} {groups : Pattern.ByteGroups}
      (hplace : subject.byteAt? start = some place)
      (found : searcher.nonemptyAt subject.text place = some groups) :
      Found searcher subject start allowEmpty (subject.spans groups)
  /-- Nothing empty was wanted at the start, and the search went on one character further. -/
  | later {place : Nat} {c : Char} {groups : Pattern.ByteGroups}
      (hplace : subject.byteAt? start = some place)
      (hchar : charAt? subject.text place = some c)
      (found : searcher.capturesAt subject.text (place + c.utf8Size) = some groups) :
      Found searcher subject start allowEmpty (subject.spans groups)

theorem found_of_find {start : Nat} {allowEmpty : Bool} {captures : Captures}
    (h : searcher.find subject start allowEmpty = some captures) :
    searcher.Found subject start allowEmpty captures := by
  simp only [find, bind, Option.bind_eq_some_iff] at h
  obtain ⟨place, hplace, groups, hgroups, ⟨first, last⟩, hwhole, h⟩ := h
  split at h
  · split at h
    · next longer hlonger =>
      obtain rfl := Option.some.inj h
      exact .longer hplace hlonger
    · simp only [Option.bind_eq_some_iff] at h
      obtain ⟨c, hc, later, hlater, h⟩ := h
      obtain rfl := Option.some.inj h
      exact .later hplace hc hlater
  · next hwanted =>
    obtain rfl := Option.some.inj h
    refine .first hplace hgroups hwhole ?_
    rintro rfl rfl
    simpa using hwanted

/-- What is found are the groups that one of the programs found at a place. -/
theorem exists_groups_of_find {start : Nat} {allowEmpty : Bool} {captures : Captures}
    (h : searcher.find subject start allowEmpty = some captures) :
    ∃ place groups, IsPlace subject.text place ∧ captures = subject.spans groups ∧
      (searcher.capturesAt subject.text place = some groups ∨
        searcher.nonemptyAt subject.text place = some groups) := by
  cases found_of_find h with
  | first hplace found _ _ =>
    exact ⟨_, _, Subject.isPlace_of_byteAt? hplace, rfl, .inl found⟩
  | longer hplace found =>
    exact ⟨_, _, Subject.isPlace_of_byteAt? hplace, rfl, .inr found⟩
  | later hplace hchar found =>
    exact ⟨_, _, (Subject.isPlace_of_byteAt? hplace).next hchar, rfl, .inl found⟩

/-- **What a sound searcher finds**: a span at or after the start, which ends after it unless an
empty match may be found there. -/
theorem Sound.find (sound : searcher.Sound) {start : Nat} {allowEmpty : Bool} {captures : Captures}
    (h : searcher.find subject start allowEmpty = some captures) :
    ∃ span, captures.span? 0 = some span ∧ span.Within subject start ∧
      (start < span.stop ∨ allowEmpty = true ∧ span.isEmpty = true) := by
  cases found_of_find h with
  | @first place first last groups hplace found whole wanted =>
    have hisPlace := Subject.isPlace_of_byteAt? hplace
    obtain ⟨first', last', hgroups⟩ := sound.capturesAt hisPlace found
    obtain ⟨rfl, rfl⟩ : first = first' ∧ last = last' := by simpa [hgroups.head] using whole.symm
    obtain ⟨hspan, hwithin⟩ := span?_of_whole hplace (Nat.le_refl place) hgroups
    refine ⟨_, hspan, hwithin, ?_⟩
    rcases Nat.lt_or_ge place last with hlt | hge
    · left
      rw [← Subject.charIndex_byteAt? hplace]
      exact Subject.charIndex_lt_charIndex hisPlace hgroups.isPlace_last hlt
    · right
      -- The match is empty at the start, so it was wanted.
      obtain ⟨rfl, rfl⟩ : first = place ∧ last = place := by
        have := hgroups.origin_le
        have := hgroups.first_le
        omega
      exact ⟨wanted rfl rfl, by simp [Span.isEmpty]⟩
  | @longer place groups hplace found =>
    have hisPlace := Subject.isPlace_of_byteAt? hplace
    obtain ⟨first, last, hlt, hgroups⟩ := sound.nonemptyAt hisPlace found
    obtain ⟨hspan, hwithin⟩ := span?_of_whole hplace (Nat.le_refl place) hgroups
    refine ⟨_, hspan, hwithin, .inl ?_⟩
    exact Nat.lt_of_le_of_lt hwithin.start_le
      (Subject.charIndex_lt_charIndex hgroups.isPlace hgroups.isPlace_last hlt)
  | @later place c groups hplace hchar found =>
    have hisPlace := Subject.isPlace_of_byteAt? hplace
    have hsize := Char.utf8Size_pos c
    obtain ⟨first, last, hgroups⟩ := sound.capturesAt (hisPlace.next hchar) found
    obtain ⟨hspan, hwithin⟩ := span?_of_whole hplace (Nat.le_add_right place c.utf8Size) hgroups
    refine ⟨_, hspan, hwithin, .inl ?_⟩
    -- One character further in bytes is one character further in characters.
    have hbegin : start < subject.charIndex first := by
      rw [← Subject.charIndex_byteAt? hplace]
      refine Subject.charIndex_lt_charIndex hisPlace hgroups.isPlace ?_
      have := hgroups.origin_le
      omega
    exact Nat.lt_of_lt_of_le hbegin hwithin.le_stop

/-! ## One step -/

theorem moved_of_globalStep {state next : MatchState}
    (h : searcher.globalStep subject keepPosition state = (true, next)) :
    ∃ captures, searcher.findNext subject state = some captures ∧ state.Moved captures next ∧
      next.subject = subject := by
  cases hfind : searcher.findNext subject state with
  | none =>
    obtain ⟨last, hstep⟩ := globalStep_of_none hfind keepPosition
    exact absurd (h.symm.trans hstep) (by simp)
  | some captures =>
    obtain ⟨next', hstep, hmoved⟩ := globalStep_of_some hfind keepPosition
    obtain ⟨-, rfl⟩ := Prod.mk.inj (h.symm.trans hstep)
    refine ⟨captures, rfl, hmoved, ?_⟩
    unfold findNext at hfind
    simp only [Searcher.globalStep, hfind] at h
    rw [← (Prod.mk.inj h).2]
    rfl

/-- **What a step that succeeds does** with a sound searcher. -/
theorem Sound.globalStep (sound : searcher.Sound) {state next : MatchState}
    (h : searcher.globalStep subject keepPosition state = (true, next)) :
    ∃ span, next.captures.span? 0 = some span ∧ span.Within subject (state.position.getD 0) ∧
      next.position = some span.stop ∧
      next.emptyAt = (if span.isEmpty then some span.stop else none) ∧
      (state.position.getD 0 < span.stop ∨
        state.emptyAt ≠ some (state.position.getD 0) ∧ span.isEmpty = true) := by
  obtain ⟨captures, hfind, hmoved, -⟩ := moved_of_globalStep h
  obtain ⟨span, hspan, hwithin, hgrows⟩ := sound.find hfind
  refine ⟨span, by rw [hmoved.captures, hspan], hwithin, hmoved.position span hspan,
    hmoved.emptyAt span hspan, ?_⟩
  simpa using hgrows

/-- A step that fails ends the stream. -/
theorem isExhausted_of_globalStep {state last : MatchState}
    (h : searcher.globalStep subject keepPosition state = (false, last)) :
    last.isExhausted = true := by
  cases hfind : searcher.findNext subject state with
  | none =>
    unfold findNext at hfind
    simp only [Searcher.globalStep, hfind] at h
    rw [← (Prod.mk.inj h).2]
    rfl
  | some captures =>
    obtain ⟨next, hstep, -⟩ := globalStep_of_some hfind keepPosition
    rw [hstep] at h
    exact absurd h (by simp)

end Searcher

/-- How many steps from a state may succeed. -/
def MatchState.credit (subject : Subject) (state : MatchState) : Nat :=
  2 * (subject.charLength - state.position.getD 0) +
    if state.emptyAt = some (state.position.getD 0) then 0 else 1

theorem MatchState.credit_le (subject : Subject) (state : MatchState) :
    state.credit subject ≤ 2 * (subject.charLength - state.position.getD 0) + 1 := by
  unfold credit
  split <;> omega

namespace Searcher

variable {searcher : Searcher} {subject : Subject} {keepPosition : Bool}

/-- A step that succeeds takes at least one of the steps that may. -/
theorem credit_lt_of_globalStep (sound : searcher.Sound) {state next : MatchState}
    (h : searcher.globalStep subject keepPosition state = (true, next)) :
    next.credit subject < state.credit subject := by
  obtain ⟨span, -, hwithin, hposition, hempty, hgrows⟩ := sound.globalStep h
  obtain ⟨hstart, hle, hstop⟩ := hwithin
  have hnext : next.credit subject =
      2 * (subject.charLength - span.stop) + if span.isEmpty then 0 else 1 := by
    unfold MatchState.credit
    rw [hposition, hempty]
    cases span.isEmpty <;> simp
  rw [hnext, MatchState.credit]
  -- Either two are gone for a character, or the one for an empty match at the position.
  rcases hgrows with hlt | ⟨hfresh, hspan⟩
  · split <;> split <;> omega
  · rw [if_pos hspan, if_neg hfresh]
    omega

/-! ## Steps until one fails -/

/-- The steps from a state on until one fails: the states after those that succeed, and the state
after the one that fails. -/
inductive Steps (searcher : Searcher) (subject : Subject) (keepPosition : Bool) :
    MatchState → List MatchState → MatchState → Prop where
  | fails {state last : MatchState}
      (step : searcher.globalStep subject keepPosition state = (false, last)) :
      Steps searcher subject keepPosition state [] last
  | finds {state next last : MatchState} {found : List MatchState}
      (step : searcher.globalStep subject keepPosition state = (true, next))
      (rest : Steps searcher subject keepPosition next found last) :
      Steps searcher subject keepPosition state (next :: found) last

/-- There is always a step that fails. -/
theorem Sound.exists_steps (sound : searcher.Sound) (state : MatchState) :
    ∃ found last, searcher.Steps subject keepPosition state found last := by
  -- Each step that succeeds leaves less credit, so they cannot go on for ever.
  induction hcredit : state.credit subject using Nat.strong_induction_on generalizing state with
  | _ credit ih =>
    rcases hstep : searcher.globalStep subject keepPosition state with ⟨matched, next⟩
    cases matched with
    | false => exact ⟨[], next, .fails hstep⟩
    | true =>
      have hlt := credit_lt_of_globalStep sound hstep
      obtain ⟨found, last, rest⟩ := ih _ (hcredit ▸ hlt) next rfl
      exact ⟨next :: found, last, .finds hstep rest⟩

namespace Steps

variable {state last : MatchState} {found : List MatchState}

theorem length_le_credit (sound : searcher.Sound)
    (steps : searcher.Steps subject keepPosition state found last) :
    found.length ≤ state.credit subject := by
  induction steps with
  | fails _ => exact Nat.zero_le _
  | finds step _ ih => exact Nat.lt_of_le_of_lt ih (credit_lt_of_globalStep sound step)

/-- The loop over the steps answers what they captured. -/
theorem collectSteps_eq (steps : searcher.Steps subject keepPosition state found last) {fuel : Nat}
    (h : found.length < fuel) :
    searcher.collectSteps subject keepPosition fuel state =
      (found.flatMap fun next => next.captures.texts subject, last) := by
  induction steps generalizing fuel with
  | fails step =>
    obtain ⟨fuel, rfl⟩ := Nat.exists_eq_succ_of_ne_zero (Nat.ne_of_gt h)
    rw [collectSteps, step]
    rfl
  | finds step _ ih =>
    obtain ⟨fuel, rfl⟩ := Nat.exists_eq_succ_of_ne_zero (Nat.ne_of_gt (Nat.zero_lt_of_lt h))
    rw [collectSteps, step]
    dsimp only
    rw [ih (Nat.lt_of_succ_lt_succ h), List.flatMap_cons]

theorem collect_eq (sound : searcher.Sound)
    (steps : searcher.Steps subject keepPosition state found last) :
    searcher.collect subject keepPosition state =
      (found.flatMap fun next => next.captures.texts subject, last) := by
  have hlength := steps.length_le_credit sound
  have hcredit := state.credit_le subject
  exact steps.collectSteps_eq (by omega)

theorem isExhausted_last (steps : searcher.Steps subject keepPosition state found last) :
    last.isExhausted = true := by
  induction steps with
  | fails step => exact isExhausted_of_globalStep step
  | finds _ _ ih => exact ih

/-- The spans of the matches from a state on. -/
structure Spans (subject : Subject) (state : MatchState) (spans : List Span) : Prop where
  within : ∀ span ∈ spans, span.Within subject (state.position.getD 0)
  ordered : spans.IsChain Span.Before
  first : ∀ span, spans.head? = some span → state.position.getD 0 < span.stop ∨
    state.emptyAt ≠ some (state.position.getD 0) ∧ span.isEmpty = true

theorem before_of_first {state : MatchState} {first second : Span}
    (hposition : state.position = some first.stop)
    (hempty : state.emptyAt = if first.isEmpty then some first.stop else none)
    (hwithin : second.Within subject (state.position.getD 0))
    (hgrows : state.position.getD 0 < second.stop ∨
      state.emptyAt ≠ some (state.position.getD 0) ∧ second.isEmpty = true) :
    first.Before second := by
  rw [hposition, Option.getD_some] at hwithin hgrows
  obtain ⟨hapart, hle, -⟩ := hwithin
  rw [hempty] at hgrows
  refine ⟨hapart, ?_, ?_⟩
  · rintro ⟨hfirst, hsecond, hstart⟩
    rw [hfirst, if_pos rfl] at hgrows
    simp only [Span.isEmpty, beq_iff_eq] at hfirst hsecond
    rcases hgrows with hlt | ⟨hfresh, -⟩
    · omega
    · exact hfresh rfl
  · rw [Prod.lex_def]
    rcases hgrows with hlt | ⟨hfresh, hsecond⟩
    · exact .inl hlt
    · have hfirst : first.isEmpty = false := by
        cases h : first.isEmpty with
        | false => rfl
        | true => exact absurd (by simp [h]) hfresh
      rcases Nat.eq_or_lt_of_le (Nat.le_trans hapart hle) with heq | hlt
      · exact .inr ⟨heq, by simp [hfirst, hsecond]⟩
      · exact .inl hlt

/-- **The matches of a stream follow each other.** -/
theorem exists_spans (sound : searcher.Sound)
    (steps : searcher.Steps subject keepPosition state found last) :
    ∃ spans, found.map (·.captures.span? 0) = spans.map some ∧ Spans subject state spans := by
  induction steps with
  | fails _ => exact ⟨[], rfl, by simp, .nil, by simp⟩
  | @finds state next last found step rest ih =>
    obtain ⟨spans, hspans, hrest⟩ := ih
    obtain ⟨span, hspan, hwithin, hposition, hempty, hgrows⟩ := sound.globalStep step
    refine ⟨span :: spans, by rw [List.map_cons, hspan, hspans, List.map_cons], ?_, ?_, ?_⟩
    · -- The later spans lie behind this one, and this one behind the position.
      refine List.forall_mem_cons.2 ⟨hwithin, fun later hlater => ?_⟩
      obtain ⟨hstart, hle, hstop⟩ := hrest.within later hlater
      rw [hposition, Option.getD_some] at hstart
      refine ⟨?_, hle, hstop⟩
      exact Nat.le_trans hwithin.start_le (Nat.le_trans hwithin.le_stop hstart)
    · cases spans with
      | nil => exact .singleton span
      | cons second spans =>
        refine List.isChain_cons_cons.2 ⟨?_, hrest.ordered⟩
        exact before_of_first hposition hempty (hrest.within second List.mem_cons_self)
          (hrest.first second rfl)
    · intro first hfirst
      obtain rfl : span = first := by simpa using hfirst
      exact hgrows

end Steps

/-- **Streams of matches make progress and end.** From any state there is a step that fails, and the
matches up to it follow each other through the subject: at most two for each character that is left
and one more. So the loop of a match in list context comes to its end. -/
theorem steps_progress (sound : searcher.Sound) (subject : Subject) (keepPosition : Bool)
    (state : MatchState) :
    (∃ found last, searcher.Steps subject keepPosition state found last) ∧
    ∀ found last, searcher.Steps subject keepPosition state found last →
      ∃ spans : List Span,
        found.map (·.captures.span? 0) = spans.map some ∧
        (∀ span ∈ spans, span.Within subject (state.position.getD 0)) ∧
        spans.IsChain Span.Before ∧
        spans.length ≤ 2 * (subject.charLength - state.position.getD 0) + 1 ∧
        last.isExhausted = true ∧
        searcher.collect subject keepPosition state =
          (found.flatMap fun next => next.captures.texts subject, last) := by
  refine ⟨sound.exists_steps state, fun found last steps => ?_⟩
  obtain ⟨spans, hspans, hprogress⟩ := steps.exists_spans sound
  have hlength : spans.length = found.length := by
    simpa using (congrArg List.length hspans).symm
  refine ⟨spans, hspans, hprogress.within, hprogress.ordered, ?_, steps.isExhausted_last,
    steps.collect_eq sound⟩
  rw [hlength]
  exact Nat.le_trans (steps.length_le_credit sound) (state.credit_le subject)

/-- In one character `(|a)` matches three times, as often as the bound admits: with nothing, with
that character, and with nothing behind it. -/
theorem steps_progress_emptyOrA :
    CompiledPattern.emptyOrA.searcher.Sound ∧ ∃ found last,
      CompiledPattern.emptyOrA.searcher.Steps (.ofText "a") false {} found last ∧
      found.map (·.captures.span? 0) = [some ⟨0, 0⟩, some ⟨0, 1⟩, some ⟨1, 1⟩] ∧
      found.length = 2 * ((Subject.ofText "a").charLength - 0) + 1 ∧ last.isExhausted = true ∧
      CompiledPattern.emptyOrA.searcher.collect (.ofText "a") false {} =
        ([some "", some "a", some ""], last) := by
  have sound := CompiledPattern.lawful_emptyOrA.sound
  have hprogress := steps_progress sound (.ofText "a") false {}
  have hfirst : CompiledPattern.emptyOrA.searcher.globalStep (.ofText "a") false {} =
      (true, ⟨some 0, [some ⟨0, 0⟩, some ⟨0, 0⟩], .ready, some 0, .ofText "a"⟩) := by cbv
  have hsecond : CompiledPattern.emptyOrA.searcher.globalStep (.ofText "a") false
        ⟨some 0, [some ⟨0, 0⟩, some ⟨0, 0⟩], .ready, some 0, .ofText "a"⟩ =
      (true, ⟨some 1, [some ⟨0, 1⟩, some ⟨0, 1⟩], .ready, none, .ofText "a"⟩) := by cbv
  have hthird : CompiledPattern.emptyOrA.searcher.globalStep (.ofText "a") false
        ⟨some 1, [some ⟨0, 1⟩, some ⟨0, 1⟩], .ready, none, .ofText "a"⟩ =
      (true, ⟨some 1, [some ⟨1, 1⟩, some ⟨1, 1⟩], .ready, some 1, .ofText "a"⟩) := by cbv
  have hlast : CompiledPattern.emptyOrA.searcher.globalStep (.ofText "a") false
        ⟨some 1, [some ⟨1, 1⟩, some ⟨1, 1⟩], .ready, some 1, .ofText "a"⟩ =
      (false, ⟨none, [some ⟨1, 1⟩, some ⟨1, 1⟩], .exhausted, none, .ofText "a"⟩) := by cbv
  have steps := Steps.finds hfirst (.finds hsecond (.finds hthird (.fails hlast)))
  obtain ⟨spans, -, -, -, -, hexhausted, hcollect⟩ := hprogress.2 _ _ steps
  refine ⟨sound, _, _, steps, rfl, rfl, hexhausted, hcollect.trans ?_⟩
  cbv

end Searcher

end DynamicValues
