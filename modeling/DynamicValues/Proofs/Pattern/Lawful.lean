import DynamicValues.Pattern.Search
import DynamicValues.Proofs.Text.Places

/-!
# What is relied on of an engine

The programs of a pattern come from an engine. What is shown of matches and streams holds of any
programs that find what an engine documents, told of a searcher by three properties:

* `Searcher.Sound`: a match is found with a span, at or after the place where the search began;
* `Searcher.Bounded`: no group ends before it begins, and all lie between characters;
* `Searcher.Counts`: what is found has the same number of entries always.

None of them asks for a program for the longest match, and a statement names the ones that it needs. A
pattern with all three is `CompiledPattern.Lawful`, and an engine is lawful if it compiles such
patterns only (`Engine.Lawful`).
-/

set_option autoImplicit false

namespace DynamicValues

namespace Pattern.ByteGroups

/-- The groups of a match from `first` to `last`, which is not before `origin`. -/
structure Whole (text : String) (origin first last : Nat) (groups : ByteGroups) : Prop where
  head : groups.head? = some (some (first, last))
  origin_le : origin ≤ first
  first_le : first ≤ last
  isPlace : IsPlace text first
  isPlace_last : IsPlace text last

/-- Every group that took part begins at or before its end, between characters both. -/
def Bounded (text : String) (groups : ByteGroups) : Prop :=
  ∀ first last, some (first, last) ∈ groups →
    first ≤ last ∧ IsPlace text first ∧ IsPlace text last

end Pattern.ByteGroups

namespace Searcher

/-- What is relied on of a searcher: from a place of a text it finds a match with a span, between
places of the text and not before that place, and a match that is asked not to be empty is not. -/
structure Sound (searcher : Searcher) : Prop where
  capturesAt : ∀ {text : String} {place : Nat} {groups : Pattern.ByteGroups}, IsPlace text place →
    searcher.capturesAt text place = some groups → ∃ first last, groups.Whole text place first last
  nonemptyAt : ∀ {text : String} {place : Nat} {groups : Pattern.ByteGroups}, IsPlace text place →
    searcher.nonemptyAt text place = some groups →
      ∃ first last, first < last ∧ groups.Whole text place first last

/-- A searcher reports bounded groups. -/
structure Bounded (searcher : Searcher) : Prop where
  capturesAt {text : String} {place : Nat} {groups : Pattern.ByteGroups} : IsPlace text place →
    searcher.capturesAt text place = some groups → groups.Bounded text
  nonemptyAt {text : String} {place : Nat} {groups : Pattern.ByteGroups} : IsPlace text place →
    searcher.nonemptyAt text place = some groups → groups.Bounded text

/-- What a searcher finds has so many entries. -/
structure Counts (searcher : Searcher) (entries : Nat) : Prop where
  capturesAt {text : String} {place : Nat} {groups : Pattern.ByteGroups} : IsPlace text place →
    searcher.capturesAt text place = some groups → groups.length = entries
  nonemptyAt {text : String} {place : Nat} {groups : Pattern.ByteGroups} : IsPlace text place →
    searcher.nonemptyAt text place = some groups → groups.length = entries

/-- A match that is not empty is the longest one. -/
theorem nonemptyAt_eq_some_iff {searcher : Searcher} {text : String} {place : Nat}
    {groups : Pattern.ByteGroups} :
    searcher.nonemptyAt text place = some groups ↔
      ∃ longestAt, searcher.longestAt? = some longestAt ∧ longestAt text place = some groups ∧
        ∃ first last, groups.head? = some (some (first, last)) ∧ first < last := by
  simp only [nonemptyAt, bind, Option.bind_eq_some_iff, Option.join_eq_some_iff]
  constructor
  · rintro ⟨longestAt, hprogram, found, hfound, ⟨first, last⟩, hhead, h⟩
    split at h
    · next hlt =>
      obtain rfl := Option.some.inj h
      exact ⟨longestAt, hprogram, hfound, first, last, hhead, hlt⟩
    · exact absurd h (by simp)
  · rintro ⟨longestAt, hprogram, hfound, first, last, hhead, hlt⟩
    exact ⟨longestAt, hprogram, groups, hfound, (first, last), hhead, if_pos hlt⟩

end Searcher

/-- The programs of a pattern find what an engine documents. -/
structure CompiledPattern.Lawful (pattern : CompiledPattern) : Prop where
  sound : pattern.searcher.Sound
  bounded : pattern.searcher.Bounded
  /-- There is an entry for the whole match and one for each group. -/
  counts : pattern.searcher.Counts (pattern.groupCount + 1)

/-- Every pattern that the engine compiles is lawful. -/
def Engine.Lawful (engine : Engine) : Prop :=
  ∀ {sizeLimit : Nat} {source : String} {modifiers : Modifiers} {pattern : CompiledPattern},
    CompiledPattern.compile engine sizeLimit source modifiers = .ok pattern → pattern.Lawful

end DynamicValues
