import DynamicValues.Proofs.Heap.Evolve
import DynamicValues.World.Coercion

/-!
# Texts and match positions

The text of a value depends neither on the match position of any scalar nor on the warnings so far.
So a loop of matches over one value sees the same text at every step, though each step may report a
warning and move the position.
-/

set_option autoImplicit false

namespace DynamicValues

namespace Heap

/-- **What moving a match position can change**: one scalar, and nothing of it but the position. -/
theorem body_setPosition_cases (heap : Heap) (v w : Value) (position : Option Nat) :
    (heap.setPosition v position).body w = heap.body w ∨
    ∃ datum before after, (heap.body w).content = .scalar datum before ∧
      (heap.setPosition v position).body w =
        { heap.body w with content := .scalar datum after } := by
  unfold setPosition
  split
  · next datum before hcontent =>
    by_cases hvw : v = w
    · subst hvw
      by_cases hlt : v.id < heap.size
      · exact .inr ⟨datum, before, position, hcontent, body_setBody_self hlt⟩
      · left
        simp only [size] at hlt
        simp [setContent, setBody, body, hlt]
    · exact .inl (body_setBody_ne hvw)
  · exact .inl rfl

variable (heap : Heap) (v w : Value) (position : Option Nat)

@[simp] theorem kind_setPosition : (heap.setPosition v position).kind w = heap.kind w := by
  rcases heap.body_setPosition_cases v w position with h | ⟨datum, before, after, hthen, h⟩
  · simp only [kind, content, h]
  · simp only [kind, content, h, hthen, Content.kind]

@[simp] theorem isReference_setPosition :
    (heap.setPosition v position).isReference w = heap.isReference w := by
  rcases heap.body_setPosition_cases v w position with h | ⟨datum, before, after, hthen, h⟩
  · simp only [isReference, referent?, datum?, content, h]
  · simp only [isReference, referent?, datum?, content, h, hthen]

end Heap

namespace World

variable (world : World) (v w : Value) (position : Option Nat)

theorem referenceText_setPosition :
    { world with heap := world.heap.setPosition v position }.referenceText w =
      world.referenceText w := by
  unfold referenceText Heap.referentName
  simp only [Heap.kind_setPosition, Heap.isReference_setPosition]
  rcases world.heap.body_setPosition_cases v w position with h | ⟨datum, before, after, hthen, h⟩
  · rw [h]
  · rw [h, hthen]
    cases (world.heap.body w).blessing <;> rfl

theorem datumText_setPosition (datum : Datum) :
    { world with heap := world.heap.setPosition v position }.datumText datum =
      world.datumText datum := by
  cases datum with
  | ref target => simp only [datumText, referenceText_setPosition]
  | _ => rfl

/-- The text of a value does not depend on match positions. -/
theorem text_setPosition :
    { world with heap := world.heap.setPosition v position }.text w = world.text w := by
  unfold text
  rcases world.heap.body_setPosition_cases v w position with h | ⟨datum, before, after, hthen, h⟩
  · simp only [Heap.content, h, datumText_setPosition, referenceText_setPosition]
  · simp only [Heap.content, h, hthen, datumText_setPosition]

/-- The text of a value does not depend on the warnings so far. -/
theorem text_log (log : WarningLog) : { world with log }.text w = world.text w := rfl

end World

end DynamicValues
