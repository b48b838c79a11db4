import BindingPress.Doc
import Mathlib.Data.List.Forall2
import Mathlib.Data.Nat.ModEq

/-!
Which declarations share a path. A path alternates between the numbers of lists and positions in
them, so the kind of a declaration can be read off the list numbers as a whole, though single
numbers serve several kinds. Positions are stored in 32 bits, so they are told apart only up to
multiples of 4294967296.
-/

namespace BindingPress.Declaration

inductive Kind where
  | message
  | field
  | nestedEnum
  | nestedEnumValue
  | enum
  | enumValue
  | service
  | method
deriving Repr, DecidableEq

def kind : Declaration → Kind
  | message _ => .message
  | field _ _ => .field
  | nestedEnum _ _ => .nestedEnum
  | nestedEnumValue _ _ _ => .nestedEnumValue
  | enum _ => .enum
  | enumValue _ _ => .enumValue
  | service _ => .service
  | method _ _ => .method

def indices : Declaration → List Nat
  | message i | enum i | service i => [i]
  | field i j | nestedEnum i j | enumValue i j | method i j => [i, j]
  | nestedEnumValue i j k => [i, j, k]

def Kind.lists : Kind → List Int
  | message => [4]
  | field => [4, 2]
  | nestedEnum => [4, 4]
  | nestedEnumValue => [4, 4, 2]
  | enum => [5]
  | enumValue => [5, 2]
  | service => [6]
  | method => [6, 2]

theorem Kind.lists_injective : Function.Injective Kind.lists := by
  intro first second
  cases first <;> cases second <;> decide

def interleave : List Int → List Int → List Int
  | list :: lists, position :: positions => list :: position :: interleave lists positions
  | _, _ => []

def separate : List Int → List Int × List Int
  | list :: position :: rest => (list :: (separate rest).1, position :: (separate rest).2)
  | _ => ([], [])

theorem separate_interleave {lists positions : List Int}
    (paired : positions.length = lists.length) :
    separate (interleave lists positions) = (lists, positions) := by
  induction lists generalizing positions with
  | nil =>
      obtain rfl := List.length_eq_zero_iff.mp paired
      rfl
  | cons list lists ih =>
      obtain ⟨position, positions, rfl⟩ := List.exists_cons_of_length_eq_add_one paired
      rw [interleave, separate, ih (Nat.succ.inj paired)]

theorem path_eq_interleave (declaration : Declaration) :
    declaration.path = interleave declaration.kind.lists (declaration.indices.map position) := by
  cases declaration <;> rfl

theorem separate_path (declaration : Declaration) :
    separate declaration.path = (declaration.kind.lists, declaration.indices.map position) := by
  rw [path_eq_interleave]
  refine separate_interleave ?_
  rw [List.length_map]
  cases declaration <;> rfl

theorem bmod_eq_bmod_iff {i j modulus : Nat} :
    Int.bmod i modulus = Int.bmod j modulus ↔ i ≡ j [MOD modulus] := by
  rw [Nat.ModEq, ← Int.natCast_inj, Int.natCast_emod, Int.natCast_emod]
  constructor
  · intro same
    rw [← Int.bmod_emod, same, Int.bmod_emod]
  · intro same
    rw [← Int.emod_bmod, same, Int.emod_bmod]

theorem position_eq_position_iff {i j : Nat} :
    position i = position j ↔ i ≡ j [MOD 4294967296] :=
  bmod_eq_bmod_iff

theorem map_position_eq_iff {indices others : List Nat} :
    indices.map position = others.map position ↔
      List.Forall₂ (fun i j => i ≡ j [MOD 4294967296]) indices others := by
  simp only [← List.forall₂_eq_eq_eq, List.forall₂_map_left_iff, List.forall₂_map_right_iff,
    position_eq_position_iff]

theorem path_eq_path_iff {first second : Declaration} :
    first.path = second.path ↔ first.kind = second.kind ∧
      List.Forall₂ (fun i j => i ≡ j [MOD 4294967296]) first.indices second.indices := by
  rw [← map_position_eq_iff]
  constructor
  · intro same
    have parts := congrArg separate same
    rw [separate_path, separate_path, Prod.mk.injEq] at parts
    exact ⟨Kind.lists_injective parts.1, parts.2⟩
  · rintro ⟨kinds, positions⟩
    rw [path_eq_interleave, path_eq_interleave, kinds, positions]

theorem eq_of_congruent {modulus : Nat} {indices others : List Nat}
    (congruent : List.Forall₂ (fun i j => i ≡ j [MOD modulus]) indices others)
    (bound : ∀ i ∈ indices, i < modulus) (otherBound : ∀ j ∈ others, j < modulus) :
    indices = others := by
  induction congruent with
  | nil => rfl
  | cons same _ ih =>
      obtain ⟨first, bound⟩ := List.forall_mem_cons.mp bound
      obtain ⟨otherFirst, otherBound⟩ := List.forall_mem_cons.mp otherBound
      rw [same.eq_of_lt_of_lt first otherFirst, ih bound otherBound]

theorem eq_of_kind_of_indices {first second : Declaration} (kinds : first.kind = second.kind)
    (indices : first.indices = second.indices) : first = second := by
  cases first <;> cases second <;> simp_all [kind, Declaration.indices]

theorem position_bounds (index : Nat) :
    -2147483648 ≤ position index ∧ position index < 2147483648 :=
  ⟨Int.le_bmod (by decide), Int.bmod_lt (by decide)⟩

/-- Declarations share a path when they are of one kind and their positions are stored alike. -/
theorem path_sharing (first second : Declaration) :
    (first.path = second.path ↔ first.kind = second.kind ∧
      List.Forall₂ (fun i j => i ≡ j [MOD 4294967296]) first.indices second.indices) ∧
    ((∀ i ∈ first.indices, i < 4294967296) → (∀ j ∈ second.indices, j < 4294967296) →
      first.path = second.path → first = second) ∧
    ∀ number ∈ first.path, -2147483648 ≤ number ∧ number < 2147483648 := by
  refine ⟨path_eq_path_iff, fun bound otherBound same => ?_, ?_⟩
  · obtain ⟨kinds, congruent⟩ := path_eq_path_iff.mp same
    exact eq_of_kind_of_indices kinds (eq_of_congruent congruent bound otherBound)
  · cases first <;> simp [path, position_bounds]

end BindingPress.Declaration
