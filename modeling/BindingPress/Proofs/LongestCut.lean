import BindingPress.Proofs.Grouping
import Mathlib.Data.List.Lex

/-!
Which cut of a piece into initialisms is found. A cut is found whenever there is one, and it is the
one whose parts are longest from the left: at the first part in which any other cut differs from it,
the part of the other cut is the shorter one.
-/

namespace BindingPress.Naming

def IsShorter (other parts : Cut) : Prop :=
  List.Lex (· < ·) (other.map List.length) (parts.map List.length)

theorem isShorter_of_first {first longer : List Char} (shorter : first.length < longer.length)
    (others parts : Cut) : IsShorter (first :: others) (longer :: parts) :=
  List.Lex.rel shorter

theorem IsShorter.cons {others parts : Cut} (shorter : IsShorter others parts)
    (first : List Char) : IsShorter (first :: others) (first :: parts) :=
  List.Lex.cons shorter

theorem IsShorter.asymm {other parts : Cut} (shorter : IsShorter other parts) :
    ¬IsShorter parts other :=
  (List.Lex.asymm (· < ·)).asymm _ _ shorter

variable {initialisms : Initialisms}

/-- Of all cuts of the text into initialisms, this one has the longest parts from the left. -/
def IsLongest (initialisms : Initialisms) (parts : Cut) (text : List Char) : Prop :=
  ∀ other, IsCover initialisms other text → other = parts ∨ IsShorter other parts

theorem IsLongest.eq {parts others : Cut} {text : List Char}
    (longest : IsLongest initialisms parts text) (cover : IsCover initialisms parts text)
    (otherLongest : IsLongest initialisms others text)
    (otherCover : IsCover initialisms others text) : parts = others := by
  rcases longest others otherCover with same | shorter
  · exact same.symm
  · exact (otherLongest parts cover).resolve_right shorter.asymm

theorem IsCover.eq_nil {parts : Cut} (cover : IsCover initialisms parts []) : parts = [] := by
  cases parts with
  | nil => rfl
  | cons first rest =>
      have empty := (List.append_eq_nil_iff.mp cover.joined).1
      exact absurd empty (cover.held first List.mem_cons_self).1

theorem length_lt_of_longestFirst {taken text : List Char} {cuts : List (Option Cut)} {parts : Cut}
    (found : longestFirst initialisms taken text cuts = some parts) :
    ∃ first others, parts = first :: others ∧ taken.length < first.length := by
  induction text generalizing taken cuts with
  | nil => simp [longestFirst] at found
  | cons c rest ih =>
      cases cuts with
      | nil => simp [longestFirst] at found
      | cons cut cuts =>
          rw [longestFirst_cons, Option.or_eq_some_iff] at found
          rcases found with deeper | ⟨_, here⟩
          · obtain ⟨first, others, rfl, longer⟩ := ih deeper
            rw [List.length_append] at longer
            exact ⟨first, others, rfl, by omega⟩
          · obtain ⟨_, following⟩ := Option.ite_none_right_eq_some.mp here
            obtain ⟨others, _, rfl⟩ := Option.map_eq_some_iff.mp following
            exact ⟨taken ++ [c], others, rfl, by simp⟩

theorem longestFirst_longest {taken text first after : List Char} {cuts : List (Option Cut)}
    {parts others : Cut} (whole : List.Forall₂ (CutsWhole initialisms) cuts text.tails.tail)
    (longest : List.Forall₂ (fun cut text => ∀ parts ∈ cut, IsLongest initialisms parts text)
      cuts text.tails.tail)
    (found : longestFirst initialisms taken text cuts = some parts) (nonempty : first ≠ [])
    (split : first ++ after = text) (held : initialisms.contains (taken ++ first) = true)
    (cover : IsCover initialisms others after) :
    (taken ++ first) :: others = parts ∨ IsShorter ((taken ++ first) :: others) parts := by
  induction text generalizing taken first cuts with
  | nil => simp_all
  | cons c rest ih =>
      rw [List.tails_cons, List.tail_cons, tails_eq_cons] at whole longest
      obtain ⟨cut, cuts, _, wholeLater, rfl⟩ := List.forall₂_cons_right_iff.mp whole
      obtain ⟨longestHere, longestLater⟩ := List.forall₂_cons.mp longest
      obtain ⟨d, first, rfl⟩ := List.exists_cons_of_ne_nil nonempty
      rw [List.cons_append] at split
      obtain ⟨rfl, rfl⟩ := List.cons.inj split
      rw [List.append_cons] at held ⊢
      rw [longestFirst_cons, Option.or_eq_some_iff] at found
      by_cases ended : first = []
      · subst ended
        rw [List.append_nil] at held ⊢
        rcases found with deeper | ⟨_, here⟩
        · obtain ⟨longer, following, rfl, shorter⟩ := length_lt_of_longestFirst deeper
          exact .inr (isShorter_of_first shorter others following)
        · rw [if_pos held] at here
          obtain ⟨following, cutAfter, rfl⟩ := Option.map_eq_some_iff.mp here
          refine (longestHere following cutAfter others cover).imp ?_ fun shorter => shorter.cons _
          rintro rfl
          rfl
      · rcases found with deeper | ⟨missing, _⟩
        · exact ih wholeLater longestLater deeper ended rfl held
        · exact absurd ⟨others, cover⟩
            (not_isCovered_of_longestFirst wholeLater missing ended rfl held)

theorem initialismCuts_longest (initialisms : Initialisms) (text : List Char) :
    List.Forall₂ (fun cut text => ∀ parts ∈ cut, IsLongest initialisms parts text)
      (initialismCuts initialisms text) text.tails := by
  induction text with
  | nil =>
      refine .cons ?_ .nil
      rintro parts ⟨⟩ other cover
      exact .inl cover.eq_nil
  | cons c rest ih =>
      rw [initialismCuts, List.tails_cons]
      refine .cons ?_ ih
      intro parts found other cover
      obtain ⟨first, after, others, rfl, nonempty, split, held, later⟩ :=
        cover.exists_first (by simp)
      have whole := initialismCuts_cutWhole initialisms rest
      exact longestFirst_longest whole ih found nonempty split held later

theorem splitInitialisms_isLongest {piece : List Char} {parts : Cut}
    (found : splitInitialisms initialisms piece = some parts) :
    IsLongest initialisms parts piece := by
  have longest := initialismCuts_longest initialisms piece
  rw [tails_eq_cons] at longest
  obtain ⟨cut, cuts, here, _, cutsEq⟩ := List.forall₂_cons_right_iff.mp longest
  rw [splitInitialisms, cutsEq] at found
  exact here parts found

/-- A piece is cut into initialisms exactly when it consists of them, and the cut is the one with
the longest parts from the left. -/
theorem splitInitialisms_longest (initialisms : Initialisms) (piece : List Char) :
    ((splitInitialisms initialisms piece).isSome = true ↔
      ∃ parts, IsCover initialisms parts piece) ∧
    ∀ parts, splitInitialisms initialisms piece = some parts ↔
      IsCover initialisms parts piece ∧ IsLongest initialisms parts piece := by
  have whole := splitInitialisms_cutsWhole initialisms piece
  refine ⟨isSome_splitInitialisms, fun parts => ?_⟩
  constructor
  · intro found
    exact ⟨whole.covers parts found, splitInitialisms_isLongest found⟩
  · rintro ⟨cover, longest⟩
    obtain ⟨others, found⟩ :=
      Option.isSome_iff_exists.mp (isSome_splitInitialisms.mpr ⟨parts, cover⟩)
    have same := longest.eq cover (splitInitialisms_isLongest found) (whole.covers others found)
    rw [found, same]

-- The longest initialism at the front leads nowhere here.
example : splitInitialisms (.ofList ["ab", "abc", "cd"]) "ABCd".toList =
    some ["AB".toList, "Cd".toList] := by
  decide +kernel

end BindingPress.Naming
