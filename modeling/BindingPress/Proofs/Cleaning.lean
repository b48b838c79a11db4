import BindingPress.Doc
import BindingPress.Proofs.Trimming

/-!
Cleaning a comment takes nothing but white space away, so that nothing is left of it exactly when
there was nothing but white space.
-/

namespace BindingPress

namespace Text

variable {text : List Char}

/-- What is not white space, in order. -/
def solids (text : List Char) : List Char :=
  text.filter fun c => !isBlank c

theorem solids_append (first second : List Char) :
    solids (first ++ second) = solids first ++ solids second :=
  List.filter_append first second

theorem solids_eq_nil_iff : solids text = [] ↔ IsBlankText text := by
  simp [solids, IsBlankText]

theorem solids_trimEnd (text : List Char) : solids (trimEnd text) = solids text := by
  have split : trimEnd text ++ text.rtakeWhile isBlank = text := List.rdropWhile_append_rtakeWhile
  have blank : IsBlankText (text.rtakeWhile isBlank) := fun _ => List.mem_rtakeWhile_imp
  calc solids (trimEnd text)
      = solids (trimEnd text) ++ solids (text.rtakeWhile isBlank) := by
        rw [solids_eq_nil_iff.mpr blank, List.append_nil]
    _ = solids text := by rw [← solids_append, split]

theorem solids_intercalate_newline (parts : List (List Char)) :
    solids (List.intercalate ['\n'] parts) = parts.flatMap solids := by
  have newline : solids ['\n'] = [] := by decide
  induction parts with
  | nil => rfl
  | cons part rest ih =>
      cases rest with
      | nil => simp
      | cons next rest =>
          rw [List.intercalate_cons_cons, solids_append, solids_append, newline, List.append_nil, ih]
          rfl

theorem solids_dropCarriageReturn (line : List Char) :
    solids (dropCarriageReturn line) = solids line := by
  rw [dropCarriageReturn]
  split
  next ends =>
    obtain ⟨front, rfl⟩ := List.getLast?_eq_some_iff.mp ends
    have carriageReturn : solids ['\r'] = [] := by decide
    rw [List.dropLast_concat, solids_append, carriageReturn, List.append_nil]
  next => rfl

theorem solids_lines (text : List Char) : (lines text).flatMap solids = solids text := by
  obtain ⟨nonempty, _, joined⟩ := split_eq_iff.mp (rfl : split '\n' text = split '\n' text)
  rw [lines]
  generalize split '\n' text = parts at nonempty joined
  obtain ⟨last, ends⟩ := Option.ne_none_iff_exists'.mp (mt List.getLast?_eq_none_iff.mp nonempty)
  have lastKept : ([last].filter (· != [])).flatMap solids = solids last := by
    by_cases empty : last = []
    · simp [empty, solids]
    · simp [empty]
  calc (parts.dropLast.map dropCarriageReturn ++
          parts.getLast?.toList.filter (· != [])).flatMap solids
      = parts.dropLast.flatMap solids ++ solids last := by
        rw [List.flatMap_append, List.flatMap_map, ends, Option.toList_some, lastKept]
        simp only [solids_dropCarriageReturn]
    _ = parts.flatMap solids := by
        rw [← List.flatMap_singleton solids last, ← List.flatMap_append,
          List.dropLast_append_getLast? last ends]
    _ = solids text := by rw [joined, solids_intercalate_newline]

end Text

theorem solids_cleanLine (line : List Char) : Text.solids (cleanLine line) = Text.solids line := by
  rw [cleanLine, Text.solids_trimEnd]
  cases line with
  | nil => rfl
  | cons c rest =>
      by_cases space : ' ' = c
      · subst space
        have dropped : Text.solids (' ' :: rest) = Text.solids rest :=
          List.filter_cons_of_neg (by decide)
        rw [dropped]
        rfl
      · simp [Text.stripPrefix?, space]

theorem solids_joinLines (text : List Char) :
    Text.solids (joinLines ((Text.lines text).map cleanLine)) = Text.solids text := by
  rw [joinLines, Text.solids_intercalate_newline, List.flatMap_map]
  simp only [solids_cleanLine, Text.solids_lines]

def IsUsable (comment : String) : Prop :=
  ∃ c ∈ comment.toList, Text.isBlank c = false

theorem not_isUsable_iff {comment : String} :
    ¬IsUsable comment ↔ Text.IsBlankText comment.toList := by
  simp [IsUsable, Text.IsBlankText]

theorem cleanComment_eq_empty_iff {comment : String} :
    cleanComment comment = "" ↔ ¬IsUsable comment := by
  rw [not_isUsable_iff, ← String.toList_inj, cleanComment, String.toList_ofList]
  calc Text.trim (joinLines ((Text.lines comment.toList).map cleanLine)) = "".toList
      ↔ Text.IsBlankText (joinLines ((Text.lines comment.toList).map cleanLine)) :=
        Text.trim_eq_nil_iff
    _ ↔ Text.IsBlankText comment.toList := by
        rw [← Text.solids_eq_nil_iff, solids_joinLines, Text.solids_eq_nil_iff]

theorem IsUsable.cleanComment_ne_empty {comment : String} (usable : IsUsable comment) :
    cleanComment comment ≠ "" :=
  fun empty => cleanComment_eq_empty_iff.mp empty usable

end BindingPress
