import DynamicValues.Pattern.Matching
import DynamicValues.World.Coercion
import DynamicValues.World.Reference

/-!
# Matching values

A match looks at the text of a value. What it answers depends on the context: a truth value where
one scalar is wanted, what the groups captured where a list is wanted.
-/

set_option autoImplicit false

namespace DynamicValues

/-- What the caller of an operation wants. -/
inductive Context where
  /-- Nothing. -/
  | void
  | scalar
  | list
  deriving Repr, DecidableEq, Inhabited

/-- The answer of a match. -/
inductive MatchOutcome where
  | scalar (matched : Bool)
  /-- Captured texts, or 1 for a pattern without groups; empty if there is no match. -/
  | list (data : List Datum)
  deriving Repr

namespace MatchOutcome

def isMatch : MatchOutcome → Bool
  | scalar matched => matched
  | list data => !data.isEmpty

/-- The answer where nothing matched. -/
def failure : Context → MatchOutcome
  | .list => list []
  | _ => scalar false

/-- The answer as a value: 1 or the empty text, or an array. -/
def toValue (heap : Heap) : MatchOutcome → Value × Heap
  | scalar true => heap.newScalar (.int 1)
  | scalar false => heap.newScalar (.text "")
  | list data => heap.newArray data

end MatchOutcome

/-- A captured text, undef for a group that took no part. -/
def capturedDatum : Option String → Datum
  | some text => .text text
  | none => .undef

namespace Searcher

/-- The answer of a match outside any stream. A pattern without groups answers 1. -/
def answerOnce (searcher : Searcher) (text : String) (context : Context) (state : MatchState) :
    MatchOutcome × MatchState :=
  match searcher.matchAnywhere text state with
  | (none, state) => (.failure context, state)
  | (some captures, state) =>
    match context with
    | .list =>
      if captures.length ≤ 1 then (.list [.int 1], state)
      else (.list ((captures.texts state.subject).map capturedDatum), state)
    | _ => (.scalar true, state)

/-- The answer of a global match on a stream that is not exhausted: the next match, or in list
context all that are left. -/
def answerGlobal (searcher : Searcher) (text : String) (keepPosition : Bool) (context : Context)
    (state : MatchState) : MatchOutcome × MatchState :=
  let subject := Subject.ofText text
  match context with
  | .list =>
    let (texts, state) := searcher.collect subject keepPosition state
    (.list (texts.map capturedDatum), state)
  | _ =>
    let (matched, state) := searcher.globalStep subject keepPosition state
    (.scalar matched, state)

end Searcher

namespace Action

/-- The pattern that a value is or refers to. -/
def pattern (v : Value) : Action CompiledPattern := fun world =>
  let found (v : Value) : Option CompiledPattern :=
    match world.heap.content v with
    | .regex pattern => some pattern
    | _ => none
  match found v with
  | some pattern => .ok pattern world
  | none =>
    match world.heap.derefRegex v with
    | .error e => .error e world
    | .ok target =>
      match found target with
      | some pattern => .ok pattern world
      | none => .error (.notAReference .regex) world

/-- Compiles a pattern within the size limit of the world. -/
def compile (engine : Engine) (source : String) (modifiers : Modifiers) :
    Action (Except PatternError Value) :=
  fun world =>
    match CompiledPattern.compile engine world.settings.regexSizeLimit source modifiers with
    | .error e => .ok (.error e) world
    | .ok pattern =>
      let (v, heap) := world.heap.newRegex pattern
      .ok (.ok v) { world with heap }

/-- A global match. An exhausted stream fails without looking at the value. -/
def streamMatch (searcher : Searcher) (keepPosition : Bool) (v : Value) (context : Context)
    (state : MatchState) : Action (MatchOutcome × MatchState) := do
  if state.isExhausted then return (.failure context, state)
  let text ← Coerced.report (World.text v)
  return searcher.answerGlobal text keepPosition context state

/-- A match anywhere in the text of a value. -/
def singleMatch (searcher : Searcher) (v : Value) (context : Context) (state : MatchState) :
    Action (MatchOutcome × MatchState) := do
  let text ← Coerced.report (World.text v)
  return searcher.answerOnce text context state

/-- A global match of a pattern; `modifiers` add to its own. -/
def matchGlobal (pattern : CompiledPattern) (modifiers : Modifiers) (v : Value)
    (context : Context) (state : MatchState) : Action (MatchOutcome × MatchState) :=
  streamMatch pattern.searcher (modifiers.union pattern.modifiers).keepPosition v context state

/-- A match of a pattern, global if its modifiers or the given ones say so. -/
def matchValue (pattern : CompiledPattern) (modifiers : Modifiers) (v : Value)
    (context : Context) (state : MatchState) : Action (MatchOutcome × MatchState) :=
  if (modifiers.union pattern.modifiers).isGlobal then
    matchGlobal pattern modifiers v context state
  else singleMatch pattern.searcher v context state

end Action

namespace MatchState

/-- A fresh state that goes on from the match position of a value. -/
def ofValue (heap : Heap) (v : Value) : MatchState := ofPosition (heap.position? v)

/-- Makes the position of the state the match position of a value. -/
def commit (heap : Heap) (v : Value) (state : MatchState) : Heap :=
  heap.setPosition v state.position

end MatchState

end DynamicValues
