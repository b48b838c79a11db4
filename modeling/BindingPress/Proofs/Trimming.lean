import BindingPress.Text.Blank
import Mathlib.Data.List.DropRight
import Mathlib.Data.List.TakeWhile

/-!
Trimming a text and cutting it at a character, said without the searches that do it. What is left
of a trimmed text has no white space at its ends, and the parts of a cut text, joined by the
character, give the text again.
-/

namespace BindingPress.Text

section Trimming

variable {text trimmed : List Char}

def IsBlankText (text : List Char) : Prop :=
  ∀ c ∈ text, isBlank c = true

structure IsTight (text : List Char) : Prop where
  first : ∀ c, text.head? = some c → isBlank c = false
  last : ∀ c, text.getLast? = some c → isBlank c = false

/-- A text is trimmed by taking white space off both of its ends until none is left there. -/
inductive Trims : List Char → List Char → Prop
  | mk {before trimmed after : List Char} : IsBlankText before → IsBlankText after →
      IsTight trimmed → Trims (before ++ (trimmed ++ after)) trimmed

theorem trimStart_eq_nil_iff : trimStart text = [] ↔ IsBlankText text :=
  List.dropWhile_eq_nil_iff

theorem trimStart_first {c : Char} (first : (trimStart text).head? = some c) :
    isBlank c = false := by
  have checked := List.head?_dropWhile_not isBlank text
  rw [show text.dropWhile isBlank = trimStart text from rfl, first] at checked
  simpa using checked

theorem trimStart_of_first (solid : ∀ c, text.head? = some c → isBlank c = false) :
    trimStart text = text := by
  cases text with
  | nil => rfl
  | cons c rest => exact List.dropWhile_cons_of_neg (by simp [solid c rfl])

theorem trimEnd_last {c : Char} (last : (trimEnd text).getLast? = some c) : isBlank c = false := by
  rw [trimEnd, dropEndWhile, List.getLast?_reverse] at last
  exact trimStart_first last

theorem trims_trim (text : List Char) : Trims text (trim text) := by
  have front : text.takeWhile isBlank ++ trimStart text = text := List.takeWhile_append_dropWhile
  have back : trim text ++ (trimStart text).rtakeWhile isBlank = trimStart text :=
    List.rdropWhile_append_rtakeWhile
  have tight : IsTight (trim text) := by
    refine ⟨fun c first => ?_, fun c last => trimEnd_last last⟩
    have start : (trimStart text).head? = some c := by
      rw [← back, List.head?_append, first, Option.some_or]
    exact trimStart_first start
  have trims : Trims (text.takeWhile isBlank ++
      (trim text ++ (trimStart text).rtakeWhile isBlank)) (trim text) :=
    .mk (fun _ => List.mem_takeWhile_imp) (fun _ => List.mem_rtakeWhile_imp) tight
  rwa [back, front] at trims

theorem IsTight.trimEnd_append (tight : IsTight trimmed) {after : List Char}
    (blank : IsBlankText after) : trimEnd (trimmed ++ after) = trimmed := by
  have blankReversed : ∀ c ∈ after.reverse, isBlank c = true :=
    fun c member => blank c (List.mem_reverse.mp member)
  have solid : trimStart trimmed.reverse = trimmed.reverse := by
    refine trimStart_of_first fun c first => tight.last c ?_
    rwa [List.head?_reverse] at first
  rw [trimStart] at solid
  rw [trimEnd, dropEndWhile, List.reverse_append, List.dropWhile_append_of_pos blankReversed,
    solid, List.reverse_reverse]

theorem Trims.eq_trim (trims : Trims text trimmed) : trimmed = trim text := by
  obtain @⟨before, _, after, blankBefore, blankAfter, tight⟩ := trims
  have skipped : trimStart (before ++ (trimmed ++ after)) = trimStart (trimmed ++ after) :=
    List.dropWhile_append_of_pos blankBefore
  rw [trim, skipped]
  cases trimmed with
  | nil =>
      rw [List.nil_append, trimStart_eq_nil_iff.mpr blankAfter]
      rfl
  | cons c rest =>
      have solid : ∀ d, (c :: rest ++ after).head? = some d → isBlank d = false := tight.first
      rw [trimStart_of_first solid, tight.trimEnd_append blankAfter]

theorem trims_iff : Trims text trimmed ↔ trimmed = trim text := by
  constructor
  · exact Trims.eq_trim
  · rintro rfl
    exact trims_trim text

theorem trim_eq_nil_iff : trim text = [] ↔ IsBlankText text := by
  constructor
  · intro nothing
    obtain @⟨before, _, after, blankBefore, blankAfter, _⟩ := trims_iff.mpr nothing.symm
    exact List.forall_mem_append.mpr ⟨blankBefore, blankAfter⟩
  · intro blank
    rw [trim, trimStart_eq_nil_iff.mpr blank]
    rfl

end Trimming

section Cutting

variable {separator : Char}

theorem split_eq_splitOn (separator : Char) (text : List Char) :
    split separator text = text.splitOn separator := by
  induction text with
  | nil => rfl
  | cons c rest ih =>
      rw [List.splitOn_cons_eq_if_modifyHead, split, ih]
      by_cases same : c = separator
      · simp [same]
      · rw [if_neg same, if_neg (by simpa using same)]
        cases parts : rest.splitOn separator with
        | nil => exact absurd parts (List.splitOn_ne_nil separator rest)
        | cons part parts => rfl

theorem split_ne_nil (separator : Char) (text : List Char) : split separator text ≠ [] := by
  rw [split_eq_splitOn]
  exact List.splitOn_ne_nil separator text

theorem not_mem_of_mem_split {text part : List Char} (member : part ∈ split separator text) :
    separator ∉ part := by
  induction text generalizing part with
  | nil =>
      rw [split, List.mem_singleton] at member
      simp [member]
  | cons c rest ih =>
      rw [split] at member
      split at member
      next =>
        rcases List.mem_cons.mp member with rfl | later
        · exact List.not_mem_nil
        · exact ih later
      next differs =>
        cases parts : split separator rest with
        | nil => exact absurd parts (split_ne_nil separator rest)
        | cons first others =>
            rw [parts] at member ih
            rcases List.mem_cons.mp member with rfl | later
            · exact List.not_mem_cons_of_ne_of_not_mem (Ne.symm differs)
                (ih List.mem_cons_self)
            · exact ih (List.mem_cons_of_mem first later)

theorem split_eq_iff {text : List Char} {parts : List (List Char)} :
    split separator text = parts ↔
      parts ≠ [] ∧ (∀ part ∈ parts, separator ∉ part) ∧
        text = List.intercalate [separator] parts := by
  constructor
  · rintro rfl
    refine ⟨split_ne_nil separator text, fun part => not_mem_of_mem_split, ?_⟩
    rw [split_eq_splitOn, List.intercalate_splitOn]
  · rintro ⟨nonempty, free, rfl⟩
    rw [split_eq_splitOn, List.splitOn_intercalate separator free nonempty]

theorem split_append (separator : Char) (text rest : List Char) :
    split separator (text ++ separator :: rest) =
      split separator text ++ split separator rest := by
  simp only [split_eq_splitOn, List.splitOn_append_cons_self]

end Cutting

end BindingPress.Text
