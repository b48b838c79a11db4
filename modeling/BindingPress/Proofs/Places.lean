import BindingPress.Doc
import Mathlib.Data.Int.CharZero
import Mathlib.Data.List.Induction
import Mathlib.Logic.Function.Basic

/-!
Places of declarations, and what is documented at a place. Positions below the sign bit are stored
as they are, so that the places of different declarations differ; the comment of a place is the
first usable one that is given for it.
-/

namespace BindingPress

namespace Declaration

def positionLimit : Nat := 2147483648

def Fits : Declaration → Prop
  | message i => i < positionLimit
  | field i j => i < positionLimit ∧ j < positionLimit
  | nestedEnum i j => i < positionLimit ∧ j < positionLimit
  | nestedEnumValue i j k => i < positionLimit ∧ j < positionLimit ∧ k < positionLimit
  | enum i => i < positionLimit
  | enumValue i j => i < positionLimit ∧ j < positionLimit
  | service i => i < positionLimit
  | method i j => i < positionLimit ∧ j < positionLimit

def place : Declaration → List Int
  | message i => [4, i]
  | field i j => [4, i, 2, j]
  | nestedEnum i j => [4, i, 4, j]
  | nestedEnumValue i j k => [4, i, 4, j, 2, k]
  | enum i => [5, i]
  | enumValue i j => [5, i, 2, j]
  | service i => [6, i]
  | method i j => [6, i, 2, j]

theorem position_eq {index : Nat} (bound : index < positionLimit) : position index = index := by
  unfold positionLimit at bound
  exact Int.bmod_eq_of_le_mul_two (by omega) (by omega)

theorem path_eq_place {declaration : Declaration} (fits : declaration.Fits) :
    declaration.path = declaration.place := by
  cases declaration with
  | message i | enum i | service i => simp only [path, place, position_eq fits]
  | field i j | nestedEnum i j | enumValue i j | method i j =>
      simp only [path, place, position_eq fits.1, position_eq fits.2]
  | nestedEnumValue i j k =>
      simp only [path, place, position_eq fits.1, position_eq fits.2.1, position_eq fits.2.2]

theorem place_injective : Function.Injective place := by
  intro first second same
  cases first <;> cases second <;> simp_all [place]

end Declaration

namespace DocIndex

theorem get?_insert (index : DocIndex) (path other : List Int) (text : String) :
    (index.insert path text).get? other =
      (index.get? other).or (if other = path then some text else none) := by
  unfold insert
  split
  next present =>
    obtain ⟨earlier, found⟩ := Option.isSome_iff_exists.mp present
    by_cases same : other = path
    · simp [same, found]
    · simp [same]
  next =>
    have single : List.lookup other [(path, text)] = if other = path then some text else none := by
      by_cases same : other = path
      · simp [same]
      · simp [List.lookup_cons, beq_false_of_ne same, same]
    simp only [get?, List.lookup_append, single]

def textFor (path : List Int) (location : Location) : Option String :=
  if location.path = path then location.doc? else none

theorem ofLocations_concat (front : List Location) (last : Location) :
    ofLocations (front ++ [last]) =
      last.doc?.elim (ofLocations front) ((ofLocations front).insert last.path) := by
  rw [ofLocations, List.foldl_append, List.foldl_cons, List.foldl_nil]
  cases last.doc? <;> rfl

/-- The first usable comment that is given for a place counts. -/
theorem get?_ofLocations (locations : List Location) (path : List Int) :
    (ofLocations locations).get? path = locations.findSome? (textFor path) := by
  induction locations using List.reverseRecOn with
  | nil => rfl
  | append_singleton front last ih =>
      rw [ofLocations_concat, List.findSome?_append, ← ih, List.findSome?_singleton]
      cases doc : last.doc? with
      | none => simp [textFor, doc]
      | some text =>
          by_cases same : last.path = path
          · simp [get?_insert, textFor, doc, same]
          · simp [get?_insert, textFor, same, Ne.symm same]

theorem get?_ofLocations_congr {locations others : List Location} {path : List Int}
    (same : (locations.filter fun location => location.path != path) =
      others.filter fun location => location.path != path)
    {place : List Int} (elsewhere : place ≠ path) :
    (ofLocations locations).get? place = (ofLocations others).get? place := by
  have kept : ∀ locations : List Location, locations.findSome? (textFor place) =
      (locations.filter fun location => location.path != path).findSome? (textFor place) := by
    intro locations
    induction locations with
    | nil => rfl
    | cons location rest ih =>
        by_cases here : location.path = path
        · have silent : textFor place location = none := by
            simp [textFor, here, Ne.symm elsewhere]
          simp [here, silent, ih]
        · simp [here, List.findSome?_cons, ih]
  rw [get?_ofLocations, get?_ofLocations, kept locations, same, ← kept others]

end DocIndex
end BindingPress
