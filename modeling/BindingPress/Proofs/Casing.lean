import BindingPress.Naming.Identifier

/-!
What a change of case never does: it drops no character, and it makes no separator. Both follow from
the tables of case forms, which are checked as a whole.
-/

namespace BindingPress

namespace Text

theorem forall_ascii {property : Char → Prop}
    (checked : ∀ code < 128, property (Char.ofNat code)) (c : Char) (ascii : c.toNat < 128) :
    property c := by
  have held := checked c.toNat ascii
  rwa [Char.ofNat_toNat] at held

namespace Span

def isApart (span other : Span) : Bool :=
  Nat.blt span.last other.first || Nat.blt other.last span.first

theorem bounds_of_contains {span : Span} {code : Nat} (held : span.contains code = true) :
    span.first ≤ code ∧ code ≤ span.last := by
  simp only [contains, Bool.and_eq_true, decide_eq_true_eq] at held
  exact held.1

end Span

def areApart (spans others : List Span) : Bool :=
  spans.all fun span => others.all span.isApart

theorem not_contained_of_areApart {spans others : List Span}
    (apart : areApart spans others = true) {span : Span} (member : span ∈ spans) {code : Nat}
    (lower : span.first ≤ code) (upper : code ≤ span.last) :
    (others.any fun other => other.contains code) = false := by
  rw [Bool.eq_false_iff]
  intro found
  obtain ⟨other, placed, held⟩ := List.any_eq_true.mp found
  have bounds := Span.bounds_of_contains held
  have separate := List.all_eq_true.mp (List.all_eq_true.mp apart span member) other placed
  simp only [Span.isApart, Bool.or_eq_true, Nat.blt_eq] at separate
  omega

end Text

namespace Naming

open Text (inSpans areApart)

def separatorSpans : List Text.Span :=
  [⟨9, 13, 1⟩, ⟨32, 32, 1⟩, ⟨45, 45, 1⟩, ⟨95, 95, 1⟩] ++ Text.blankSpans

def alphanumericSpans : List Text.Span :=
  [⟨48, 57, 1⟩, ⟨65, 90, 1⟩, ⟨97, 122, 1⟩] ++ Text.alphabeticSpans ++ Text.numericSpans

theorem isSeparator_eq (c : Char) : isSeparator c = inSpans separatorSpans c := by
  simp only [isSeparator, Text.isBlank, inSpans, separatorSpans, Text.blankSpans,
    Text.Span.contains, ← Char.toNat_inj, List.any_append, List.any_cons, List.any_nil,
    Nat.mod_one, Bool.or_false, beq_self_eq_true, Bool.and_true, Char.reduceToNat]
  rw [Bool.eq_iff_iff]
  split <;> simp <;> omega

theorem ascii_alphanumeric : ∀ c : Char, c.toNat < 128 → isAlphanumeric c = true →
    inSpans alphanumericSpans c = true := by
  apply Text.forall_ascii
  decide +kernel

theorem inSpans_of_isAlphanumeric {c : Char} (letter : isAlphanumeric c = true) :
    inSpans alphanumericSpans c = true := by
  by_cases ascii : c.toNat < 128
  · exact ascii_alphanumeric c ascii letter
  · simp only [isAlphanumeric, Text.isAlphabetic, Text.isNumeric, if_neg ascii] at letter
    simp only [inSpans, alphanumericSpans, List.any_append, Bool.or_eq_true]
    rcases Bool.or_eq_true_iff.mp letter with alphabetic | numeric
    · exact .inl (.inr alphabetic)
    · exact .inr numeric

theorem alphanumericSpans_apart : areApart alphanumericSpans separatorSpans = true := by
  decide +kernel

theorem not_isSeparator_of_isAlphanumeric {c : Char} (letter : isAlphanumeric c = true) :
    isSeparator c = false := by
  obtain ⟨span, member, held⟩ := List.any_eq_true.mp (inSpans_of_isAlphanumeric letter)
  have bounds := Text.Span.bounds_of_contains held
  rw [isSeparator_eq]
  exact Text.not_contained_of_areApart alphanumericSpans_apart member bounds.1 bounds.2

theorem not_isSeparator_ofNat {code : Nat}
    (other : (separatorSpans.any fun span => span.contains code) = false) :
    isSeparator (Char.ofNat code) = false := by
  rw [isSeparator_eq, inSpans]
  by_cases valid : code.isValidChar
  · have same : (Char.ofNat code).toNat = code := by
      rw [Char.ofNat, dif_pos valid]
      rfl
    rw [same]
    exact other
  · have zero : (Char.ofNat code).toNat = 0 := by
      simp [Char.ofNat, valid, Char.toNat]
    rw [zero]
    decide

end Naming

namespace Text

open Naming

def CaseSpan.image (entry : CaseSpan) : Span :=
  ⟨entry.target, entry.target + (entry.span.last - entry.span.first), 1⟩

structure SoundForms (expansions : List (Nat × List Nat)) (spans : List CaseSpan) : Prop where
  nonempty : ∀ entry ∈ expansions, entry.2 ≠ []
  expansions : ∀ entry ∈ expansions, ∀ code ∈ entry.2,
    (separatorSpans.any fun span => span.contains code) = false
  spans : areApart (spans.map CaseSpan.image) separatorSpans = true

theorem upperForms_sound : SoundForms upperExpansions upperSpans where
  nonempty := by decide +kernel
  expansions := by decide +kernel
  spans := by decide +kernel

theorem lowerForms_sound : SoundForms lowerExpansions lowerSpans where
  nonempty := by decide +kernel
  expansions := by decide +kernel
  spans := by decide +kernel

section

variable {expansions : List (Nat × List Nat)} {spans : List CaseSpan}

theorem lookup_mem {code : Nat} {codes : List Nat}
    (found : expansions.lookup code = some codes) : (code, codes) ∈ expansions := by
  obtain ⟨before, after, split, _⟩ := List.lookup_eq_some_iff.mp found
  simp [split]

theorem expand_ne_nil (sound : SoundForms expansions spans) (c : Char) :
    expand expansions spans c ≠ [] := by
  unfold expand
  split
  next codes found => simpa using sound.nonempty _ (lookup_mem found)
  next => simp

theorem mapSpans_apart (sound : SoundForms expansions spans) (code : Nat) :
    mapSpans spans code = code ∨
      (separatorSpans.any fun span => span.contains (mapSpans spans code)) = false := by
  unfold mapSpans
  split
  next entry found =>
    have held := List.find?_some found
    have bounds := Span.bounds_of_contains held
    have member := List.mem_map_of_mem (f := CaseSpan.image) (List.mem_of_find?_eq_some found)
    refine .inr (not_contained_of_areApart sound.spans member ?_ ?_)
    · exact Nat.le_add_right entry.target _
    · simp only [CaseSpan.image]
      omega
  next => exact .inl rfl

theorem not_isSeparator_of_mem_expand (sound : SoundForms expansions spans) {c d : Char}
    (plain : isSeparator c = false) (member : d ∈ expand expansions spans c) :
    isSeparator d = false := by
  unfold expand at member
  split at member
  next codes found =>
    obtain ⟨code, placed, rfl⟩ := List.mem_map.mp member
    exact not_isSeparator_ofNat (sound.expansions _ (lookup_mem found) code placed)
  next =>
    rw [List.mem_singleton] at member
    subst member
    rcases mapSpans_apart sound c.toNat with same | apart
    · rw [same, Char.ofNat_toNat]
      exact plain
    · exact not_isSeparator_ofNat apart

end

theorem upper_append (text more : List Char) : upper (text ++ more) = upper text ++ upper more :=
  List.flatMap_append

theorem upperChar_ne_nil (c : Char) : upperChar c ≠ [] := by
  unfold upperChar
  split
  next => simp
  next => exact expand_ne_nil upperForms_sound c

theorem lowerChar_ne_nil (c : Char) : lowerChar c ≠ [] := by
  unfold lowerChar
  split
  next => simp
  next => exact expand_ne_nil lowerForms_sound c

theorem ascii_case_apart : ∀ c : Char, c.toNat < 128 → isSeparator c = false →
    isSeparator c.toUpper = false ∧ isSeparator c.toLower = false := by
  apply forall_ascii
  decide +kernel

theorem not_isSeparator_of_mem_upperChar {c d : Char} (plain : isSeparator c = false)
    (member : d ∈ upperChar c) : isSeparator d = false := by
  unfold upperChar at member
  split at member
  next ascii =>
    rw [List.mem_singleton] at member
    rw [member]
    exact (ascii_case_apart c ascii plain).1
  next => exact not_isSeparator_of_mem_expand upperForms_sound plain member

theorem not_isSeparator_of_mem_lowerChar {c d : Char} (plain : isSeparator c = false)
    (member : d ∈ lowerChar c) : isSeparator d = false := by
  unfold lowerChar at member
  split at member
  next ascii =>
    rw [List.mem_singleton] at member
    rw [member]
    exact (ascii_case_apart c ascii plain).2
  next => exact not_isSeparator_of_mem_expand lowerForms_sound plain member

theorem length_le_upper (text : List Char) : text.length ≤ (upper text).length := by
  induction text with
  | nil => simp
  | cons c rest ih =>
      have nonempty := List.length_pos_iff.mpr (upperChar_ne_nil c)
      simp only [upper, List.flatMap_cons, List.length_append, List.length_cons] at ih ⊢
      omega

theorem length_le_lowerAfter (before text : List Char) :
    text.length ≤ (lowerAfter before text).length := by
  induction text generalizing before with
  | nil => simp
  | cons c rest ih =>
      have later := ih (c :: before)
      have nonempty := List.length_pos_iff.mpr (lowerChar_ne_nil c)
      simp only [lowerAfter, List.length_append, List.length_cons]
      split
      next => simp only [List.length_singleton]; omega
      next => omega

theorem not_isSeparator_of_mem_upper {text : List Char} {d : Char}
    (plain : ∀ c ∈ text, isSeparator c = false) (member : d ∈ upper text) :
    isSeparator d = false := by
  obtain ⟨c, placed, formed⟩ := List.mem_flatMap.mp member
  exact not_isSeparator_of_mem_upperChar (plain c placed) formed

theorem not_isSeparator_of_mem_lowerAfter {before text : List Char} {d : Char}
    (plain : ∀ c ∈ text, isSeparator c = false) (member : d ∈ lowerAfter before text) :
    isSeparator d = false := by
  induction text generalizing before with
  | nil => simp [lowerAfter] at member
  | cons c rest ih =>
      rw [List.forall_mem_cons] at plain
      rw [lowerAfter, List.mem_append] at member
      rcases member with formed | later
      · split at formed
        next =>
          rw [List.mem_singleton] at formed
          subst formed
          split <;> decide
        next => exact not_isSeparator_of_mem_lowerChar plain.1 formed
      · exact ih plain.2 later

end Text

namespace Naming

theorem length_le_capitalize (text : List Char) : text.length ≤ (capitalize text).length := by
  cases text with
  | nil => simp
  | cons c rest =>
      have nonempty := List.length_pos_iff.mpr (Text.upperChar_ne_nil c)
      simp only [capitalize, List.length_append, List.length_cons]
      omega

theorem not_isSeparator_of_mem_capitalize {text : List Char} {d : Char}
    (plain : ∀ c ∈ text, isSeparator c = false) (member : d ∈ capitalize text) :
    isSeparator d = false := by
  cases text with
  | nil => simp [capitalize] at member
  | cons c rest =>
      rw [List.forall_mem_cons] at plain
      rcases List.mem_append.mp member with formed | kept
      · exact Text.not_isSeparator_of_mem_upperChar plain.1 formed
      · exact plain.2 d kept

end Naming
end BindingPress
