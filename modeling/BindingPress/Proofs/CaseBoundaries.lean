import BindingPress.Proofs.Grouping

/-!
Where a run is cut. The pieces of a run make it up without gaps, and the boundaries between them are
exactly the places at which its case changes, found by looking one character back and one ahead.
-/

namespace BindingPress.Naming

/-- A piece ends, and another one starts, after so many characters. -/
def HasBoundary (pieces : List (List Char)) (position : Nat) : Prop :=
  ∃ before after, before ≠ [] ∧ after ≠ [] ∧ pieces = before ++ after ∧
    before.flatten.length = position

theorem not_hasBoundary_nil (position : Nat) : ¬HasBoundary [] position := by
  rintro ⟨before, after, nonempty, _, split, _⟩
  exact nonempty (List.append_eq_nil_iff.mp split.symm).1

theorem hasBoundary_cons {piece : List Char} {pieces : List (List Char)} {position : Nat} :
    HasBoundary (piece :: pieces) position ↔
      pieces ≠ [] ∧ position = piece.length ∨
        ∃ later, HasBoundary pieces later ∧ position = piece.length + later := by
  constructor
  · rintro ⟨before, after, nonempty, ends, split, rfl⟩
    obtain ⟨first, before, rfl⟩ := List.exists_cons_of_ne_nil nonempty
    rw [List.cons_append] at split
    obtain ⟨rfl, rfl⟩ := List.cons.inj split
    by_cases single : before = []
    · exact .inl ⟨by simpa [single] using ends, by simp [single]⟩
    · exact .inr ⟨before.flatten.length, ⟨before, after, single, ends, rfl, rfl⟩, by simp⟩
  · rintro (⟨nonempty, rfl⟩ | ⟨later, ⟨before, after, _, ends, rfl, rfl⟩, rfl⟩)
    · exact ⟨[piece], pieces, by simp, nonempty, rfl, by simp⟩
    · exact ⟨piece :: before, after, by simp, ends, rfl, by simp⟩

theorem hasBoundary_cons_cons {c : Char} {piece : List Char} {pieces : List (List Char)}
    {index : Nat} :
    HasBoundary ((c :: piece) :: pieces) (index + 1) ↔ HasBoundary (piece :: pieces) index := by
  rw [hasBoundary_cons, hasBoundary_cons, List.length_cons]
  have shifted : ∀ later, index + 1 = piece.length + 1 + later ↔ index = piece.length + later := by
    omega
  simp only [shifted, Nat.add_right_cancel_iff]

theorem HasBoundary.pos {pieces : List (List Char)} {position : Nat}
    (boundary : HasBoundary pieces position) (filled : ∀ piece ∈ pieces, piece ≠ []) :
    0 < position := by
  obtain ⟨before, after, nonempty, _, rfl, rfl⟩ := boundary
  obtain ⟨first, before, rfl⟩ := List.exists_cons_of_ne_nil nonempty
  have some := List.length_pos_of_ne_nil (filled first (by simp))
  rw [List.flatten_cons, List.length_append]
  omega

def StartsAfter (run : List Char) (index : Nat) : Prop :=
  ∃ previous current, run[index]? = some previous ∧ run[index + 1]? = some current ∧
    startsPiece previous current run[index + 2]? = true

theorem startsAfter_zero {previous current : Char} {rest : List Char} :
    StartsAfter (previous :: current :: rest) 0 ↔
      startsPiece previous current rest.head? = true := by
  simp [StartsAfter, List.head?_eq_getElem?]

theorem startsAfter_succ {c : Char} {run : List Char} {index : Nat} :
    StartsAfter (c :: run) (index + 1) ↔ StartsAfter run index :=
  Iff.rfl

theorem hasBoundary_casePieces (run : List Char) (index : Nat) :
    HasBoundary (casePieces run) (index + 1) ↔ StartsAfter run index := by
  fun_induction casePieces run generalizing index with
  | case1 => simp [not_hasBoundary_nil, StartsAfter]
  | case2 c => simp [hasBoundary_cons, not_hasBoundary_nil, StartsAfter]
  | case3 previous current rest pieces starts ih =>
      cases index with
      | zero =>
          have filled : pieces ≠ [] := casePieces_ne_nil (by simp)
          exact iff_of_true (hasBoundary_cons.mpr (.inl ⟨filled, rfl⟩)) (startsAfter_zero.mpr starts)
      | succ index =>
          rw [startsAfter_succ, ← ih, hasBoundary_cons_cons]
          simp [hasBoundary_cons, pieces]
  | case4 previous current rest pieces starts empty ih =>
      exact absurd empty (casePieces_ne_nil (by simp))
  | case5 previous current rest pieces starts piece others split ih =>
      rw [hasBoundary_cons_cons, ← split]
      cases index with
      | zero =>
          refine iff_of_false (fun boundary => ?_) (mt startsAfter_zero.mp starts)
          exact absurd (boundary.pos fun _ => ne_nil_of_mem_casePieces) (Nat.lt_irrefl 0)
      | succ index => rw [startsAfter_succ, ← ih]

theorem startsPiece_iff {previous current : Char} {next : Option Char} :
    startsPiece previous current next = true ↔
      Text.isUppercase current = true ∧
        (Text.isLowercase previous = true ∨ Text.isNumeric previous = true ∨
          Text.isUppercase previous = true ∧
            ∃ follower, next = some follower ∧ Text.isLowercase follower = true) := by
  cases next <;> simp [startsPiece, or_assoc]

/-- A run is cut into pieces of at least one character each, and only where a capital follows a
small letter or a digit or stands between another capital and a small letter. -/
theorem casePieces_boundaries (run : List Char) :
    (∀ piece ∈ casePieces run, piece ≠ []) ∧ (casePieces run).flatten = run ∧
    ∀ index, HasBoundary (casePieces run) (index + 1) ↔
      ∃ previous current, run[index]? = some previous ∧ run[index + 1]? = some current ∧
        Text.isUppercase current = true ∧
        (Text.isLowercase previous = true ∨ Text.isNumeric previous = true ∨
          Text.isUppercase previous = true ∧
            ∃ next, run[index + 2]? = some next ∧ Text.isLowercase next = true) := by
  refine ⟨fun _ => ne_nil_of_mem_casePieces, casePieces_flatten run, fun index => ?_⟩
  rw [hasBoundary_casePieces, StartsAfter]
  simp only [startsPiece_iff]

end BindingPress.Naming
