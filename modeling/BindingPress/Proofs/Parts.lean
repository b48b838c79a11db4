import BindingPress.Model.Resolution
import Mathlib.Data.List.TakeWhile

/-!
The last part of a dotted name, said without the search that finds it: it holds no dot, and what
comes before it in the name, if anything does, ends with one.
-/

namespace BindingPress

namespace Text

variable {separator : Char}

theorem bne_of_mem_reverse {text : List Char} (absent : separator ∉ text) :
    ∀ c ∈ text.reverse, (c != separator) = true := by
  intro c member
  rw [bne_iff_ne]
  rintro rfl
  exact absent (List.mem_reverse.mp member)

theorem afterLast_of_absent {text : List Char} (absent : separator ∉ text) :
    afterLast separator text = text := by
  rw [afterLast, List.takeWhile_eq_self_iff.mpr (bne_of_mem_reverse absent), List.reverse_reverse]

theorem afterLast_append (before : List Char) {after : List Char} (absent : separator ∉ after) :
    afterLast separator (before ++ separator :: after) = after := by
  rw [afterLast, List.reverse_append, List.reverse_cons, List.append_assoc,
    List.takeWhile_append_of_pos (bne_of_mem_reverse absent), List.singleton_append,
    List.takeWhile_cons_of_neg (by simp), List.append_nil, List.reverse_reverse]

theorem not_mem_afterLast (text : List Char) : separator ∉ afterLast separator text := by
  intro member
  have differs := List.mem_takeWhile_imp (List.mem_reverse.mp member)
  simp at differs

theorem eq_or_append_afterLast (separator : Char) (text : List Char) :
    text = afterLast separator text ∨
      ∃ before, text = before ++ separator :: afterLast separator text := by
  by_cases present : separator ∈ text
  · obtain ⟨after, before, split, absent⟩ :=
      List.eq_append_cons_of_mem (List.mem_reverse.mpr present)
    have whole : text = before.reverse ++ separator :: after.reverse := by
      rw [← text.reverse_reverse, split]
      simp
    have last : afterLast separator text = after.reverse := by
      rw [whole]
      exact afterLast_append before.reverse (by simpa using absent)
    exact .inr ⟨before.reverse, by rw [last]; exact whole⟩
  · exact .inl (afterLast_of_absent present).symm

end Text

/-- The part of a dotted name after its last dot, or all of a name without dots. -/
structure IsLastPart (name part : String) : Prop where
  undotted : '.' ∉ part.toList
  ends : name = part ∨ ∃ scope, name = scope ++ "." ++ part

theorem shortName_isLastPart (name : String) : IsLastPart name (shortName name) := by
  constructor
  · rw [shortName, String.toList_ofList]
    exact Text.not_mem_afterLast name.toList
  · rcases Text.eq_or_append_afterLast '.' name.toList with whole | ⟨scope, split⟩
    · exact .inl (by rw [← String.toList_inj, shortName, String.toList_ofList]; exact whole)
    · refine .inr ⟨String.ofList scope, ?_⟩
      rw [← String.toList_inj, shortName]
      simpa using split

theorem isLastPart_iff {name part : String} : IsLastPart name part ↔ part = shortName name := by
  constructor
  · rintro ⟨undotted, rfl | ⟨scope, rfl⟩⟩
    · rw [shortName, Text.afterLast_of_absent undotted, String.ofList_toList]
    · have split : (scope ++ "." ++ part).toList = scope.toList ++ '.' :: part.toList := by simp
      rw [shortName, split, Text.afterLast_append scope.toList undotted, String.ofList_toList]
  · rintro rfl
    exact shortName_isLastPart name

end BindingPress
