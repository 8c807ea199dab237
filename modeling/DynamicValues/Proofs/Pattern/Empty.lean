import DynamicValues.Pattern.Lockstep

/-!
# The empty pattern

The program of the empty pattern notes where it is twice and accepts. So it **matches at every place**
of every text, with nothing: a search finds the empty match where it begins, and there is no match
that is not empty.
-/

set_option autoImplicit false

namespace DynamicValues

namespace Pattern.Program

/-- The one path goes to the accepting instruction, noting the place on the way. -/
theorem follow_empty (place : Nat) (before after : Option Char) :
    (Front.fresh 3).follow Node.empty.program.code place before after
      [⟨Node.empty.program.start, Array.replicate 2 none⟩] =
      ⟨⟨#[true, true, true], 0⟩, #[⟨0, #[some place, some place]⟩]⟩ := by
  simp [Front.fresh, Entered.fresh, Node.program, Node.emit, Node.groupCount, Front.follow]
  exact ⟨rfl, rfl⟩

theorem advance_empty (all : Bool) (place : Nat) (c afterNext : Option Char) (slots : Slots)
    (front : Front) :
    advance Node.empty.program.code all place c afterNext [⟨0, slots⟩] ⟨none, front⟩ =
      ⟨some slots, front⟩ := by
  cases all <;> rfl

/-- With a match and no path left, a run is over. -/
theorem runFrom_of_no_threads (program : Program) (mode : Mode) (text : String) (place size : Nat)
    (best : Slots) : program.runFrom text mode false place (.fresh size) (some best) = some best := by
  rw [runFrom.eq_def]
  cases mode <;> rfl

theorem runFrom_empty (mode : Mode) (text : String) (place : Nat) :
    Node.empty.program.runFrom text mode true place (.fresh 3) none =
      some #[some place, some place] := by
  have hfront := follow_empty place (charBefore? text place) (charAt? text place)
  have hslots : 2 * Node.empty.program.groups = 2 := rfl
  rw [runFrom.eq_def]
  cases mode with
  | leftmost =>
    simp only [hslots, Option.isNone_none, if_pos, hfront]
    split
    · next h => exact absurd h (by simp)
    · split
      · rw [advance_empty]
        rfl
      · rw [advance_empty]
        exact runFrom_of_no_threads _ _ _ _ _ _
  | longest =>
    simp only [hslots, if_pos, hfront]
    split
    · next h => exact absurd h (by simp)
    · split
      · rw [advance_empty]
        rfl
      · rw [advance_empty]
        exact runFrom_of_no_threads _ _ _ _ _ _

theorem search_empty (text : String) (place : Nat) :
    Node.empty.program.search text place = some [some (place, place)] := by
  have hrun := runFrom_empty .leftmost text place
  rw [search, show Node.empty.program.code.size = 3 from rfl, hrun]
  rfl

theorem longest_empty (text : String) (place : Nat) :
    Node.empty.program.longest text place = some [some (place, place)] := by
  have hrun := runFrom_empty .longest text place
  rw [longest, show Node.empty.program.code.size = 3 from rfl, hrun]
  rfl

end Pattern.Program

/-- The empty pattern without modifiers. -/
def CompiledPattern.empty : CompiledPattern := .ofNode "" {} .empty

example : CompiledPattern.compile .lockstep 100 "" {} = .ok .empty := rfl

/-- **What can be found of the empty pattern**: the empty match at every place, and nothing else. -/
theorem CompiledPattern.searcher_empty :
    empty.searcher = ⟨fun _ place => some [some (place, place)],
      some fun _ place => some [some (place, place)]⟩ := by
  have hsearch : Pattern.Node.empty.program.search = fun _ place => some [some (place, place)] :=
    funext fun text => funext fun place => Pattern.Program.search_empty text place
  have hlongest : Pattern.Node.empty.program.longest = fun _ place => some [some (place, place)] :=
    funext fun text => funext fun place => Pattern.Program.longest_empty text place
  rw [empty, ofNode, Searcher.ofProgram, hsearch, hlongest]

end DynamicValues
