import DynamicValues.World.Basic

/-!
# How an action ends

An action ends with an answer or with an error, and with a world either way. `Action.outcome` is the
answer or the error and `Action.final` the world, for statements that hold however the action ends.
-/

set_option autoImplicit false

namespace DynamicValues

/-! ## Warnings -/

namespace World

/-- Warnings change nothing but the log. -/
theorem exists_warnAll_eq (world : World) (warnings : List Warning) :
    ∃ log, world.warnAll warnings = { world with log } := by
  induction warnings generalizing world with
  | nil => exact ⟨world.log, rfl⟩
  | cons warning warnings ih =>
    obtain ⟨log, hlog⟩ := ih (world.warn warning)
    refine ⟨log, ?_⟩
    rw [warnAll, List.foldl_cons, ← warnAll, hlog, warn]
    split <;> rfl

theorem warnAll_eq (world : World) (warnings : List Warning) :
    world.warnAll warnings = { world with log := (world.warnAll warnings).log } := by
  obtain ⟨log, hlog⟩ := world.exists_warnAll_eq warnings
  rw [hlog]

theorem warnAll_heap (world : World) (heap : Heap) (warnings : List Warning) :
    { world with heap }.warnAll warnings = { world.warnAll warnings with heap } := by
  induction warnings generalizing world with
  | nil => rfl
  | cons warning warnings ih =>
    have hwarn : { world with heap }.warn warning = { world.warn warning with heap } := by
      unfold warn
      split <;> rfl
    rw [warnAll, List.foldl_cons, hwarn]
    exact ih _

@[simp] theorem heap_warnAll (world : World) (warnings : List Warning) :
    (world.warnAll warnings).heap = world.heap := by
  obtain ⟨log, hlog⟩ := world.exists_warnAll_eq warnings
  rw [hlog]

@[simp] theorem scopes_warnAll (world : World) (warnings : List Warning) :
    (world.warnAll warnings).scopes = world.scopes := by
  obtain ⟨log, hlog⟩ := world.exists_warnAll_eq warnings
  rw [hlog]

end World

/-! ## Outcome and world -/

namespace Action

variable {α β : Type}

/-- How an action ends. -/
def outcome (action : Action α) (world : World) : Except ValueError α :=
  match action world with
  | .ok answer _ => .ok answer
  | .error e _ => .error e

/-- The world after an action, however it ended. -/
def final (action : Action α) (world : World) : World :=
  match action world with
  | .ok _ world => world
  | .error _ world => world

/-- Goes on after an action, be it a failure. -/
def attempt (action : Action α) (next : Except ValueError α → Action β) : Action β :=
  fun world => next (action.outcome world) (action.final world)

theorem outcome_map (f : α → β) (action : Action α) (world : World) :
    (f <$> action).outcome world = (action.outcome world).map f := by
  unfold outcome
  simp only [Functor.map, EStateM.map]
  cases action world <;> rfl

theorem get_eq (world : World) : (get : Action World) world = .ok world world := rfl

@[simp] theorem final_attempt (action : Action α) (next : Except ValueError α → Action β)
    (world : World) : (action.attempt next).final world =
      (next (action.outcome world)).final (action.final world) := rfl

@[simp] theorem final_onHeap (change : Heap → α × Heap) (world : World) :
    (onHeap change).final world = { world with heap := (change world.heap).2 } := rfl

@[simp] theorem final_onClasses (change : SymbolTable → α × SymbolTable) (world : World) :
    (onClasses change).final world = { world with classes := (change world.classes).2 } := rfl

/-- A question leaves the world as it was. -/
@[simp] theorem final_ask (question : World → Except ValueError α) (world : World) :
    (ask question).final world = world := by
  unfold final ask
  cases question world <;> rfl

@[simp] theorem outcome_ask (question : World → Except ValueError α) (world : World) :
    (ask question).outcome world = question world := by
  unfold outcome ask
  cases question world <;> rfl

theorem final_intern (name : String) (world : World) :
    (intern name).final world =
      match world.classes.intern name with
      | .ok (_, classes) => { world with classes }
      | .error _ => world := by
  unfold final intern
  cases world.classes.intern name <;> rfl

theorem final_setIsa (id : StashId) (parents : List StashId) (world : World) :
    (setIsa id parents).final world =
      match world.classes.setIsa id parents with
      | .ok classes => { world with classes }
      | .error _ => world := by
  unfold final setIsa
  cases world.classes.setIsa id parents <;> rfl

theorem final_defineNative (id : StashId) (name : String) (native : Native) (world : World) :
    ∃ code, ((defineNative id name native).final world).classes =
      (world.classes.defineMethod id name code).2 := ⟨_, rfl⟩

end Action

end DynamicValues
