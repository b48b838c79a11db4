import BindingPress.Model.Assembly
import Mathlib.Data.List.Forall2

/-!
Laws of the traversal that stops at the first failure: with which results it succeeds, which
failure it reports, and how it splits at an append.
-/

namespace BindingPress

variable {α β ε : Type}

theorem bind_eq_ok {first : Except ε α} {next : α → Except ε β} {result : β} :
    (first >>= next) = .ok result ↔ ∃ value, first = .ok value ∧ next value = .ok result := by
  cases first <;> simp [bind, Except.bind]

theorem bind_eq_error {first : Except ε α} {next : α → Except ε β} {error : ε} :
    (first >>= next) = .error error ↔
      first = .error error ∨ ∃ value, first = .ok value ∧ next value = .error error := by
  cases first <;> simp [bind, Except.bind]

theorem tryMapFrom_eq_ok (f : Nat → α → Except ε β) (start : Nat) (elements : List α)
    (results : List β) :
    tryMapFrom f start elements = .ok results ↔
      List.Forall₂ (fun entry result => f entry.2 entry.1 = .ok result)
        (elements.zipIdx start) results := by
  induction elements generalizing start results with
  | nil =>
      simp only [tryMapFrom, Except.ok.injEq, List.zipIdx_nil, List.forall₂_nil_left_iff]
      exact eq_comm
  | cons element rest ih =>
      simp only [tryMapFrom, bind_eq_ok, pure, Except.pure, Except.ok.injEq, List.zipIdx_cons,
        List.forall₂_cons_left_iff, ih]
      constructor
      · rintro ⟨first, found, others, remaining, rfl⟩
        exact ⟨first, others, found, remaining, rfl⟩
      · rintro ⟨first, others, found, remaining, rfl⟩
        exact ⟨first, found, others, remaining, rfl⟩

theorem tryMapFrom_succeeds_iff (f : Nat → α → Except ε β) (start : Nat) (elements : List α) :
    (∃ results, tryMapFrom f start elements = .ok results) ↔
      ∀ entry ∈ elements.zipIdx start, ∃ result, f entry.2 entry.1 = .ok result := by
  induction elements generalizing start with
  | nil => simp [tryMapFrom]
  | cons element rest ih =>
      rw [List.zipIdx_cons, List.forall_mem_cons, ← ih]
      simp only [tryMapFrom, bind_eq_ok, pure, Except.pure, Except.ok.injEq]
      constructor
      · rintro ⟨results, first, found, others, remaining, rfl⟩
        exact ⟨⟨first, found⟩, others, remaining⟩
      · rintro ⟨⟨first, found⟩, others, remaining⟩
        exact ⟨first :: others, first, found, others, remaining, rfl⟩

/-- The failure that is reported is that of the first element that fails; what comes after it is
not looked at. -/
theorem tryMapFrom_eq_error (f : Nat → α → Except ε β) (start : Nat) (elements : List α)
    (error : ε) :
    tryMapFrom f start elements = .error error ↔
      ∃ before element after, elements = before ++ element :: after ∧
        (∀ entry ∈ before.zipIdx start, ∃ result, f entry.2 entry.1 = .ok result) ∧
        f (start + before.length) element = .error error := by
  induction elements generalizing start with
  | nil => simp [tryMapFrom]
  | cons head rest ih =>
      simp only [tryMapFrom, bind_eq_error, pure, Except.pure, reduceCtorEq, and_false,
        exists_false, or_false, ih]
      constructor
      · rintro (failed | ⟨first, found, before, element, after, rfl, succeeded, failed⟩)
        · exact ⟨[], head, rest, rfl, by simp, failed⟩
        · refine ⟨head :: before, element, after, rfl, ?_, ?_⟩
          · rw [List.zipIdx_cons, List.forall_mem_cons]
            exact ⟨⟨first, found⟩, succeeded⟩
          · rw [List.length_cons, Nat.add_comm before.length, ← Nat.add_assoc]
            exact failed
      · rintro ⟨before, element, after, split, succeeded, failed⟩
        cases before with
        | nil =>
            obtain ⟨rfl, rfl⟩ := List.cons.inj split
            exact .inl failed
        | cons earlier before =>
            obtain ⟨rfl, rfl⟩ := List.cons.inj split
            rw [List.zipIdx_cons, List.forall_mem_cons] at succeeded
            obtain ⟨⟨first, found⟩, succeeded⟩ := succeeded
            refine .inr ⟨first, found, before, element, after, rfl, succeeded, ?_⟩
            rw [List.length_cons, Nat.add_comm before.length, ← Nat.add_assoc] at failed
            exact failed

theorem tryMapFrom_eq_append {f : Nat → α → Except ε β} {start : Nat} {elements : List α}
    {front back : List β} {result : β}
    (succeeded : tryMapFrom f start elements = .ok (front ++ result :: back)) :
    ∃ before element after, elements = before ++ element :: after ∧
      tryMapFrom f start before = .ok front ∧
      f (start + before.length) element = .ok result := by
  induction elements generalizing start front with
  | nil => simp [tryMapFrom] at succeeded
  | cons element rest ih =>
      simp only [tryMapFrom, bind_eq_ok, pure, Except.pure, Except.ok.injEq] at succeeded
      obtain ⟨first, found, others, remaining, same⟩ := succeeded
      cases front with
      | nil =>
          obtain ⟨rfl, rfl⟩ := List.cons.inj same
          exact ⟨[], element, rest, rfl, rfl, found⟩
      | cons head front =>
          obtain ⟨rfl, rfl⟩ := List.cons.inj same
          obtain ⟨before, last, after, rfl, earlier, reached⟩ := ih remaining
          refine ⟨element :: before, last, after, rfl, ?_, ?_⟩
          · simp only [tryMapFrom, found, earlier]
            rfl
          · rw [List.length_cons, Nat.add_comm before.length, ← Nat.add_assoc]
            exact reached

theorem tryMapFrom_related {f : Nat → α → Except ε β} {related : α → β → Prop}
    (relates : ∀ index element result, f index element = .ok result → related element result)
    {start : Nat} {elements : List α} {results : List β}
    (succeeded : tryMapFrom f start elements = .ok results) :
    List.Forall₂ related elements results := by
  rw [tryMapFrom_eq_ok] at succeeded
  rw [← List.zipIdx_map_fst start elements, List.forall₂_map_left_iff]
  exact succeeded.imp fun entry result found => relates entry.2 entry.1 result found

theorem tryMapFrom_append (f : Nat → α → Except ε β) (start : Nat) (front back : List α) :
    tryMapFrom f start (front ++ back) = (do
      let results ← tryMapFrom f start front
      let others ← tryMapFrom f (start + front.length) back
      return results ++ others) := by
  induction front generalizing start with
  | nil =>
      rw [List.nil_append, tryMapFrom, List.length_nil, Nat.add_zero]
      cases tryMapFrom f start back <;> rfl
  | cons element rest ih =>
      have shifted : start + (element :: rest).length = start + 1 + rest.length := by
        simp only [List.length_cons]
        omega
      rw [List.cons_append, tryMapFrom, tryMapFrom, ih, shifted]
      cases f start element with
      | error failure => rfl
      | ok first =>
          cases tryMapFrom f (start + 1) rest with
          | error failure => rfl
          | ok results => cases tryMapFrom f (start + 1 + rest.length) back <;> rfl

end BindingPress
