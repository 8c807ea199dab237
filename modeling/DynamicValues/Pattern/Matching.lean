import DynamicValues.Pattern.Search

/-!
# Match states and match streams

A `MatchState` is the progress of one stream of matches: where the next one is looked for, what the
last one captured, and whether the stream has ended. The state belongs to the caller, so one pattern
can serve many streams.

A global step looks for the next match from the position on. After an empty match the next step must
not find that match again, so `emptyAt` remembers where it was. Each match that a stream of steps
finds ends later than the one before, or ends where that one ended and is then empty while that one
was not; so from position `p` of `n` characters at most `2 * (n - p) + 1` steps can succeed.
-/

set_option autoImplicit false

namespace DynamicValues

/-- Whether a stream can go on. -/
inductive MatchStatus where
  | ready
  /-- The last global step found nothing. Only moving the position or a reset changes this. -/
  | exhausted
  deriving Repr, DecidableEq, Inhabited

/-- The progress of a stream of matches. -/
structure MatchState where
  /-- Where the next global match is looked for, in characters. -/
  position : Option Nat := none
  /-- The spans of the last match. -/
  captures : Captures := []
  status : MatchStatus := .ready
  /-- Where the last global match was, if it was empty. -/
  emptyAt : Option Nat := none
  /-- The text of the last match. -/
  subject : Subject := .ofText ""
  deriving Inhabited

namespace MatchState

/-- A fresh state that goes on from a position. -/
def ofPosition (position : Option Nat) : MatchState := { position }

/-- Moves the position. The stream can go on, and an empty match may be found there. -/
def setPosition (state : MatchState) (position : Option Nat) : MatchState :=
  { state with position, status := .ready, emptyAt := none }

def isExhausted (state : MatchState) : Bool := state.status == .exhausted

/-- Notes a match of `subject`. -/
def record (state : MatchState) (subject : Subject) (captures : Captures) : MatchState :=
  { state with subject, captures }

/-- The text of a group of the last match, the whole match for group 0. -/
def group? (state : MatchState) (group : Nat) : Option String :=
  (state.captures.span? group).map fun span => state.subject.slice span.start span.stop

/-- The text before the last match. -/
def preMatch? (state : MatchState) : Option String :=
  (state.captures.span? 0).map fun span => state.subject.slice 0 span.start

/-- The text after the last match. -/
def postMatch? (state : MatchState) : Option String :=
  (state.captures.span? 0).map fun span =>
    state.subject.slice span.stop state.subject.charLength

end MatchState

/-! ## One match -/

/-- What the groups of a match captured: one entry per group, or the whole match if the pattern has
no groups. -/
def Captures.texts (captures : Captures) (subject : Subject) : List (Option String) :=
  let text (span : Span) : String := subject.slice span.start span.stop
  match captures with
  | [] => []
  | [whole] => (whole.map fun span => some (text span)).toList
  | _ :: groups => groups.map fun group => group.map text

namespace Searcher

/-- The next match of a stream. On failure the stream is exhausted and the position is forgotten
unless `keepPosition`. -/
def globalStep (searcher : Searcher) (subject : Subject) (keepPosition : Bool)
    (state : MatchState) : Bool × MatchState :=
  let start := state.position.getD 0
  match searcher.find subject start (state.emptyAt != some start) with
  | some captures =>
    let whole := (captures.span? 0).getD ⟨start, start⟩
    (true, { state with
      position := some whole.stop
      emptyAt := if whole.isEmpty then some whole.stop else none }.record subject captures)
  | none =>
    (false, { state with
      status := .exhausted
      emptyAt := none
      position := if keepPosition then state.position else none })

/-- Takes global steps until one fails and collects what each captured. -/
def collectSteps (searcher : Searcher) (subject : Subject) (keepPosition : Bool) :
    (steps : Nat) → MatchState → List (Option String) × MatchState
  | 0, state => ([], state)
  | steps + 1, state =>
    match searcher.globalStep subject keepPosition state with
    | (true, next) =>
      let (texts, last) := searcher.collectSteps subject keepPosition steps next
      (next.captures.texts subject ++ texts, last)
    | (false, last) => ([], last)

/-- All matches of a stream. Two steps for each character that is left and two more are enough. -/
def collect (searcher : Searcher) (subject : Subject) (keepPosition : Bool)
    (state : MatchState) : List (Option String) × MatchState :=
  let left := subject.charLength - state.position.getD 0
  searcher.collectSteps subject keepPosition (2 * left + 2) state

/-- A match of `text` from character `start` on, outside any stream: it moves the position and
notes the captures if it succeeds and changes nothing if it fails. -/
def matchText (searcher : Searcher) (text : String) (start : Nat) (allowEmpty : Bool)
    (state : MatchState) : Bool × MatchState :=
  let subject := Subject.ofText text
  match searcher.find subject start allowEmpty with
  | some captures =>
    (true, { state with position := (captures.span? 0).map Span.stop }.record subject captures)
  | none => (false, state)

/-- A match anywhere in `text` that leaves the stream alone but notes the captures. -/
def matchAnywhere (searcher : Searcher) (text : String) (state : MatchState) :
    Option Captures × MatchState :=
  let subject := Subject.ofText text
  match searcher.find subject 0 true with
  | some captures => (some captures, state.record subject captures)
  | none => (none, state)

end Searcher

end DynamicValues
