import Mathlib
import DynamicValues.Proofs.Stream.Progress

/-!
# A search finds the leftmost match

A pattern has a set of spans that it matches in a text. `Searcher.Decides` says that a searcher
answers by that set: from a place on it finds a span that begins first, and at a place it finds one
that is not empty, where there is any.

The search of a subject puts such answers together so that an empty match at its start can be passed
over. It still misses nothing: what it reports is a span that is wanted and begins no later than any
other, and it reports nothing only where none is wanted (`Decides.reports`).
-/

set_option autoImplicit false

namespace DynamicValues

namespace Span

/-- A span as byte offsets. -/
def bytes (text : String) (span : Span) : Nat × Nat :=
  (placeAfter text span.start, placeAfter text span.stop)

/-- A match that a search from `start` may report: one that begins there or later, and not the empty
one at `start` unless that is allowed. -/
structure Wanted (matched : Set Span) (start : Nat) (allowEmpty : Bool) (span : Span) : Prop where
  mem : span ∈ matched
  start_le : start ≤ span.start
  admitted : allowEmpty = true ∨ span ≠ ⟨start, start⟩

end Span

namespace Searcher

/-- The searcher answers by the set of the spans, in characters, that match in a text. -/
structure Decides (searcher : Searcher) (text : String) (matched : Set Span) : Prop where
  le_stop : ∀ span ∈ matched, span.start ≤ span.stop
  stop_le : ∀ span ∈ matched, span.stop ≤ text.length
  capturesAt_none : ∀ start ≤ text.length,
    searcher.capturesAt text (placeAfter text start) = none → ∀ span ∈ matched, span.start < start
  capturesAt_some : ∀ start ≤ text.length, ∀ groups,
    searcher.capturesAt text (placeAfter text start) = some groups →
      ∃ span ∈ matched, groups.head? = some (some (span.bytes text)) ∧ start ≤ span.start ∧
        ∀ other ∈ matched, start ≤ other.start → span.start ≤ other.start
  nonemptyAt_none : ∀ start ≤ text.length,
    searcher.nonemptyAt text (placeAfter text start) = none →
      ∀ span ∈ matched, span.start = start → span.stop = start
  nonemptyAt_some : ∀ start ≤ text.length, ∀ groups,
    searcher.nonemptyAt text (placeAfter text start) = some groups →
      ∃ span ∈ matched, groups.head? = some (some (span.bytes text)) ∧ span.start = start ∧
        start < span.stop

/-- What a search that misses nothing reports: a span that is wanted and begins first, or nothing
where none is wanted. -/
inductive Reports (matched : Set Span) (start : Nat) (allowEmpty : Bool) :
    Option Captures → Prop where
  | found {captures : Captures} {span : Span} (whole : captures.span? 0 = some span)
      (wanted : span.Wanted matched start allowEmpty)
      (first : ∀ other : Span, other.Wanted matched start allowEmpty → span.start ≤ other.start) :
      Reports matched start allowEmpty (some captures)
  | nothing (unwanted : ∀ span : Span, ¬ span.Wanted matched start allowEmpty) :
      Reports matched start allowEmpty none

namespace Decides

variable {searcher : Searcher} {subject : Subject} {matched : Set Span} {start : Nat}
  {allowEmpty : Bool}

/-- The byte offsets of a match come back as its characters. -/
theorem span?_eq (decides : searcher.Decides subject.text matched) {span : Span}
    (hmem : span ∈ matched) {groups : Pattern.ByteGroups}
    (hhead : groups.head? = some (some (span.bytes subject.text))) :
    (subject.spans groups).span? 0 = some span := by
  have hstop := decides.stop_le span hmem
  have hstart := Nat.le_trans (decides.le_stop span hmem) hstop
  rw [span?_spans, hhead, Span.bytes]
  simp [Subject.charIndex_placeAfter hstart, Subject.charIndex_placeAfter hstop]

/-- A match that begins first among those from the start on, and is wanted, is reported. -/
theorem reports_first (decides : searcher.Decides subject.text matched) {groups : Pattern.ByteGroups}
    {span : Span} (hhead : groups.head? = some (some (span.bytes subject.text)))
    (wanted : span.Wanted matched start allowEmpty)
    (first : ∀ other : Span, other.Wanted matched start allowEmpty → span.start ≤ other.start) :
    Reports matched start allowEmpty (some (subject.spans groups)) :=
  .found (decides.span?_eq wanted.mem hhead) wanted first

/-- Where only the empty match is at the start, and it is not wanted, what is wanted begins one
character further. -/
theorem wanted_iff_of_nonemptyAt_none (decides : searcher.Decides subject.text matched)
    (hstart : start ≤ subject.text.length)
    (hnone : searcher.nonemptyAt subject.text (placeAfter subject.text start) = none)
    {span : Span} :
    span.Wanted matched start false ↔ span ∈ matched ∧ start + 1 ≤ span.start := by
  constructor
  · rintro ⟨hmem, hle, hadmitted⟩
    refine ⟨hmem, Nat.lt_of_le_of_ne hle fun heq => ?_⟩
    have hstop := decides.nonemptyAt_none start hstart hnone span hmem heq.symm
    obtain ⟨first, last⟩ := span
    simp_all
  · rintro ⟨hmem, hle⟩
    refine ⟨hmem, by omega, .inr ?_⟩
    rintro rfl
    exact absurd hle (Nat.not_succ_le_self _)

/-- The test for the empty match at the start, by bytes. -/
theorem isEmptyAt_iff (decides : searcher.Decides subject.text matched)
    (hstart : start ≤ subject.text.length) {span : Span} (hmem : span ∈ matched) {first last : Nat}
    (hbytes : span.bytes subject.text = (first, last)) :
    (first == last && first == placeAfter subject.text start) = true ↔ span = ⟨start, start⟩ := by
  obtain ⟨rfl, rfl⟩ := Prod.mk.inj hbytes
  have hstop := decides.stop_le span hmem
  have hbegin := Nat.le_trans (decides.le_stop span hmem) hstop
  rw [Bool.and_eq_true, beq_iff_eq, beq_iff_eq]
  constructor
  · rintro ⟨hempty, hplace⟩
    obtain ⟨spanStart, spanStop⟩ := span
    rw [Span.mk.injEq]
    refine ⟨Subject.placeAfter_inj hbegin hstart hplace, ?_⟩
    exact Subject.placeAfter_inj hstop hstart (hempty.symm.trans hplace)
  · rintro rfl
    exact ⟨rfl, rfl⟩

/-- Behind an unwanted empty match the search goes on one character further. -/
theorem reports_later (decides : searcher.Decides subject.text matched)
    (hstart : start ≤ subject.text.length)
    (hnone : searcher.nonemptyAt subject.text (placeAfter subject.text start) = none) :
    Reports matched start false (do
      let c ← charAt? subject.text (placeAfter subject.text start)
      let found ← searcher.capturesAt subject.text (placeAfter subject.text start + c.utf8Size)
      some (subject.spans found)) := by
  rw [charAt?_placeAfter]
  cases hchar : subject.text.toList[start]? with
  | none =>
    -- At the end of the text there is no character to go past.
    have hend : subject.text.length ≤ start := by
      rw [← String.length_toList]
      exact List.getElem?_eq_none_iff.1 hchar
    refine .nothing fun span wanted => ?_
    obtain ⟨hmem, hle⟩ := (decides.wanted_iff_of_nonemptyAt_none hstart hnone).1 wanted
    have := decides.le_stop span hmem
    have := decides.stop_le span hmem
    omega
  | some c =>
    have hnext : start + 1 ≤ subject.text.length := by
      rw [← String.length_toList]
      exact (List.getElem?_eq_some_iff.1 hchar).1
    simp only [bind, Option.bind_some, ← placeAfter_succ hchar]
    cases hfound : searcher.capturesAt subject.text (placeAfter subject.text (start + 1)) with
    | none =>
      refine .nothing fun span wanted => ?_
      obtain ⟨hmem, hle⟩ := (decides.wanted_iff_of_nonemptyAt_none hstart hnone).1 wanted
      exact absurd hle (Nat.not_le_of_lt (decides.capturesAt_none _ hnext hfound span hmem))
    | some groups =>
      obtain ⟨span, hmem, hhead, hle, hfirst⟩ := decides.capturesAt_some _ hnext groups hfound
      refine decides.reports_first hhead
        ((decides.wanted_iff_of_nonemptyAt_none hstart hnone).2 ⟨hmem, hle⟩) fun other wanted => ?_
      obtain ⟨hother, hlater⟩ := (decides.wanted_iff_of_nonemptyAt_none hstart hnone).1 wanted
      exact hfirst other hother hlater

/-- **A search is sound, leftmost and complete.** -/
theorem reports (decides : searcher.Decides subject.text matched) (start : Nat)
    (allowEmpty : Bool) : Reports matched start allowEmpty (searcher.find subject start allowEmpty) := by
  unfold find
  rw [Subject.byteAt?_eq]
  by_cases hstart : start ≤ subject.text.length
  case neg =>
    rw [if_neg hstart]
    refine .nothing fun span wanted => hstart ?_
    have := decides.le_stop span wanted.mem
    have := decides.stop_le span wanted.mem
    have := wanted.start_le
    omega
  rw [if_pos hstart]
  simp only [bind, Option.bind_some]
  cases hfound : searcher.capturesAt subject.text (placeAfter subject.text start) with
  | none =>
    refine .nothing fun span wanted => ?_
    have := decides.capturesAt_none start hstart hfound span wanted.mem
    exact absurd wanted.start_le (by omega)
  | some groups =>
    obtain ⟨span, hmem, hhead, hle, hfirst⟩ := decides.capturesAt_some start hstart groups hfound
    rcases hbytes : span.bytes subject.text with ⟨first, last⟩
    simp only [Option.bind_some, hhead, Option.join_some, hbytes]
    split
    · next hpassed =>
      -- The empty match at the start is not wanted, so something longer there comes first.
      rw [Bool.and_assoc, Bool.and_eq_true, decides.isEmptyAt_iff hstart hmem hbytes] at hpassed
      obtain rfl : allowEmpty = false := by simpa using hpassed.1
      cases hlonger : searcher.nonemptyAt subject.text (placeAfter subject.text start) with
      | none => exact decides.reports_later hstart hlonger
      | some longer =>
        obtain ⟨span', hmem', hhead', hat, hlt⟩ :=
          decides.nonemptyAt_some start hstart longer hlonger
        refine decides.reports_first hhead' ⟨hmem', Nat.le_of_eq hat.symm, .inr ?_⟩ fun other wanted => ?_
        · rintro rfl
          exact Nat.lt_irrefl _ hlt
        · exact hat ▸ wanted.start_le
    · next hkept =>
      rw [Bool.and_assoc, Bool.and_eq_true, decides.isEmptyAt_iff hstart hmem hbytes] at hkept
      refine decides.reports_first hhead ⟨hmem, hle, ?_⟩ fun other wanted =>
        hfirst other wanted.mem wanted.start_le
      cases allowEmpty with
      | true => exact .inl rfl
      | false => exact .inr fun heq => hkept ⟨rfl, heq⟩

end Decides

variable {searcher : Searcher} {text : String} {matched : Set Span}

/-- **A match of a text finds the leftmost wanted span.** It succeeds exactly if the start is not past
the end and a span is wanted; then the whole match is a wanted span that begins no later than any
other, and the position is its end. A match that fails changes nothing. -/
theorem matchText_leftmost (decides : searcher.Decides text matched) (start : Nat)
    (allowEmpty : Bool) (state : MatchState) :
    ((searcher.matchText text start allowEmpty state).1 = true ↔
      start ≤ text.length ∧ ∃ span : Span, span.Wanted matched start allowEmpty) ∧
    (∀ next, searcher.matchText text start allowEmpty state = (true, next) →
      ∃ span : Span, next.captures.span? 0 = some span ∧
        span.Wanted matched start allowEmpty ∧
        (∀ other : Span, other.Wanted matched start allowEmpty → span.start ≤ other.start) ∧
        next = { state with
          position := some span.stop, captures := next.captures, subject := .ofText text } ∧
        (span = ⟨start, start⟩ → allowEmpty = true ∧ next.position = some start)) ∧
    ∀ next, searcher.matchText text start allowEmpty state = (false, next) → next = state := by
  have hreports : Reports matched start allowEmpty
      (searcher.find (.ofText text) start allowEmpty) := Decides.reports decides start allowEmpty
  unfold matchText
  dsimp only
  cases hfind : searcher.find (.ofText text) start allowEmpty with
  | none =>
    rw [hfind] at hreports
    cases hreports with
    | nothing unwanted =>
      refine ⟨?_, ?_, ?_⟩
      · simp [unwanted]
      · simp
      · simp [eq_comm]
  | some captures =>
    rw [hfind] at hreports
    cases hreports with
    | @found _ span whole wanted first =>
      refine ⟨?_, ?_, ?_⟩
      · refine iff_of_true rfl ⟨?_, span, wanted⟩
        have := decides.le_stop span wanted.mem
        have := decides.stop_le span wanted.mem
        have := wanted.start_le
        omega
      · rintro next hnext
        obtain ⟨-, rfl⟩ := Prod.mk.inj hnext
        refine ⟨span, whole, wanted, first, ?_, ?_⟩
        · simp [MatchState.record, whole]
        · rintro rfl
          refine ⟨by simpa using wanted.admitted, ?_⟩
          simp [MatchState.record, whole]
      · intro next hnext
        exact absurd hnext (by simp)

/-- In `éa` the pattern `(|a)` matches with nothing at each of the three places, and the letter. -/
theorem decides_emptyOrA :
    CompiledPattern.emptyOrA.searcher.Decides "éa" {⟨0, 0⟩, ⟨1, 1⟩, ⟨1, 2⟩, ⟨2, 2⟩} := by
  have hcaptures : ∀ start ≤ 2,
      CompiledPattern.emptyOrA.searcher.capturesAt "éa" (placeAfter "éa" start) =
        some [some (placeAfter "éa" start, placeAfter "éa" start),
          some (placeAfter "éa" start, placeAfter "éa" start)] := by
    intro start hstart
    interval_cases start <;> cbv
  have hlonger : ∀ start ≤ 2,
      CompiledPattern.emptyOrA.searcher.nonemptyAt "éa" (placeAfter "éa" start) =
        if start = 1 then some [some (2, 3), some (2, 3)] else none := by
    intro start hstart
    interval_cases start <;> cbv
  have hlength : "éa".length = 2 := rfl
  constructor
  · simp
  · simp [hlength]
  · intro start hstart hnone
    rw [hcaptures start hstart] at hnone
    exact absurd hnone (by simp)
  · intro start hstart groups hgroups
    rw [hcaptures start hstart] at hgroups
    obtain rfl := Option.some.inj hgroups
    refine ⟨⟨start, start⟩, ?_, rfl, Nat.le_refl _, fun _ _ h => h⟩
    rw [hlength] at hstart
    interval_cases start <;> simp
  · intro start hstart hnone
    rw [hlonger start hstart] at hnone
    have hother : start ≠ 1 := by
      rintro rfl
      exact absurd hnone (by simp)
    simp only [Set.mem_insert_iff, Set.mem_singleton_iff]
    rintro span (rfl | rfl | rfl | rfl) hspan <;> simp_all
  · intro start hstart groups hgroups
    rw [hlonger start hstart] at hgroups
    split at hgroups
    · next hone =>
      subst hone
      obtain rfl := Option.some.inj hgroups
      exact ⟨⟨1, 2⟩, by simp, by decide, rfl, by decide⟩
    · exact absurd hgroups (by simp)

/-- From the start of `éa`, with no empty match wanted there, `(|a)` matches with nothing behind the
`é`, a character of two bytes. -/
theorem matchText_leftmost_emptyOrA :
    CompiledPattern.emptyOrA.searcher.Decides "éa" {⟨0, 0⟩, ⟨1, 1⟩, ⟨1, 2⟩, ⟨2, 2⟩} ∧
    ∃ next, CompiledPattern.emptyOrA.searcher.matchText "éa" 0 false {} = (true, next) ∧
      next.captures.span? 0 = some ⟨1, 1⟩ ∧ next.position = some 1 ∧
      ∀ other : Span, other.Wanted {⟨0, 0⟩, ⟨1, 1⟩, ⟨1, 2⟩, ⟨2, 2⟩} 0 false →
        1 ≤ other.start := by
  have hmatch : CompiledPattern.emptyOrA.searcher.matchText "éa" 0 false {} =
      (true, ⟨some 1, [some ⟨1, 1⟩, some ⟨1, 1⟩], .ready, none, .ofText "éa"⟩) := by cbv
  obtain ⟨span, hspan, -, hfirst, -⟩ :=
    (matchText_leftmost decides_emptyOrA 0 false {}).2.1 _ hmatch
  obtain rfl : ⟨1, 1⟩ = span := Option.some.inj hspan
  exact ⟨decides_emptyOrA, _, hmatch, rfl, rfl, hfirst⟩

end Searcher

end DynamicValues
