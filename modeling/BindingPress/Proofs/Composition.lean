import BindingPress.Proofs.SnakeCase

/-!
Names that are put together from others. At a mark that is neither a letter nor a digit no run goes
on, so that the names on both sides of it are read as if each stood alone.
-/

namespace BindingPress.Naming

section

variable {initialisms : Initialisms}

theorem tokens_separators {gap : List Char} (separators : ∀ c ∈ gap, isSeparator c = true) :
    tokens initialisms gap = [] :=
  tokens_eq_nil_iff.mpr separators

theorem tokens_symbol {mark : Char} (other : isAlphanumeric mark = false)
    (plain : isSeparator mark = false) : tokens initialisms [mark] = [.symbol mark] := by
  simp [tokens, segments, other, plain, Segment.token]

theorem not_isAlphanumeric_of_isSeparator {c : Char} (separator : isSeparator c = true) :
    isAlphanumeric c = false := by
  rw [Bool.eq_false_iff]
  intro letter
  rw [not_isSeparator_of_isAlphanumeric letter] at separator
  contradiction

theorem tokens_append_mark {mark : Char} (other : isAlphanumeric mark = false)
    (name rest : List Char) :
    tokens initialisms (name ++ mark :: rest) =
      tokens initialisms name ++ (tokens initialisms [mark] ++ tokens initialisms rest) := by
  have boundary : ∀ c ∈ (mark :: rest).head?, isAlphanumeric c = false := by simpa using other
  rw [tokens_append name _ boundary, tokens_cons_mark other]

theorem tokens_gap_append {gap : List Char} (separators : ∀ c ∈ gap, isSeparator c = true)
    (rest : List Char) : tokens initialisms (gap ++ rest) = tokens initialisms rest := by
  induction gap with
  | nil => rfl
  | cons c gap ih =>
      obtain ⟨here, later⟩ := List.forall_mem_cons.mp separators
      have dropped : tokens initialisms [c] = [] := tokens_separators (by simpa using here)
      rw [List.cons_append, tokens_cons_mark (not_isAlphanumeric_of_isSeparator here), dropped,
        List.nil_append, ih later]

theorem tokens_append_gap {gap : List Char} (nonempty : gap ≠ [])
    (separators : ∀ c ∈ gap, isSeparator c = true) (name rest : List Char) :
    tokens initialisms (name ++ gap ++ rest) =
      tokens initialisms name ++ tokens initialisms rest := by
  obtain ⟨c, gap, rfl⟩ := List.exists_cons_of_ne_nil nonempty
  have first : isSeparator c = true := separators c (by simp)
  have boundary : ∀ d ∈ (c :: gap ++ rest).head?, isAlphanumeric d = false := by
    simpa using not_isAlphanumeric_of_isSeparator first
  rw [List.append_assoc, tokens_append name _ boundary, tokens_gap_append separators]

theorem tokens_append_trailing {gap : List Char} (separators : ∀ c ∈ gap, isSeparator c = true)
    (name : List Char) : tokens initialisms (name ++ gap) = tokens initialisms name := by
  have boundary : ∀ c ∈ gap.head?, isAlphanumeric c = false := by
    intro c first
    exact not_isAlphanumeric_of_isSeparator (separators c (List.mem_of_mem_head? first))
  rw [tokens_append name gap boundary, tokens_separators separators, List.append_nil]

theorem tokens_intercalate_mark {mark : Char} (other : isAlphanumeric mark = false)
    (plain : isSeparator mark = false) (parts : List (List Char)) :
    tokens initialisms ([mark].intercalate parts) =
      [.symbol mark].intercalate (parts.map (tokens initialisms)) := by
  induction parts with
  | nil => exact tokens_separators (by simp)
  | cons part rest ih =>
      cases rest with
      | nil => simp
      | cons next rest =>
          rw [List.map_cons] at ih
          rw [List.intercalate_cons_cons, List.append_assoc, List.singleton_append,
            tokens_append_mark other, tokens_symbol other plain, ih, List.map_cons, List.map_cons,
            List.intercalate_cons_cons, List.append_assoc]

end

namespace Identifier

/-- Names that meet at a separator, at a gap of several or at a symbol are read one by one. -/
theorem parse_composed (initialisms : Initialisms) :
    (∀ name rest : String,
      (∀ c, isSeparator c = true →
        (parse (name ++ String.singleton c ++ rest) initialisms).tokens =
          (parse name initialisms).tokens ++ (parse rest initialisms).tokens) ∧
      (∀ c, isAlphanumeric c = false → isSeparator c = false →
        (parse (name ++ String.singleton c ++ rest) initialisms).tokens =
          (parse name initialisms).tokens ++ [.symbol c] ++ (parse rest initialisms).tokens) ∧
      ∀ gap : String, gap ≠ "" → (∀ c ∈ gap.toList, isSeparator c = true) →
        (parse (name ++ gap ++ rest) initialisms).tokens =
          (parse name initialisms).tokens ++ (parse rest initialisms).tokens) ∧
    (∀ before name after : String, (∀ c ∈ before.toList, isSeparator c = true) →
      (∀ c ∈ after.toList, isSeparator c = true) →
      (parse (before ++ name ++ after) initialisms).tokens = (parse name initialisms).tokens) ∧
    ∀ parts : List String, (parse (".".intercalate parts) initialisms).tokens =
      [.symbol '.'].intercalate (parts.map fun part => (parse part initialisms).tokens) := by
  refine ⟨fun name rest => ?_, ?_, ?_⟩
  · have gaps : ∀ gap : String, gap ≠ "" → (∀ c ∈ gap.toList, isSeparator c = true) →
        (parse (name ++ gap ++ rest) initialisms).tokens =
          (parse name initialisms).tokens ++ (parse rest initialisms).tokens := by
      intro gap nonempty separators
      have filled : gap.toList ≠ [] := by simpa using nonempty
      simp only [parse, String.toList_append]
      exact tokens_append_gap filled separators name.toList rest.toList
    refine ⟨?_, ?_, gaps⟩
    · intro c separator
      exact gaps (String.singleton c) (by simp) (by simpa using separator)
    · intro c other plain
      simp only [parse, String.toList_append, String.toList_singleton, List.append_assoc,
        List.singleton_append]
      rw [tokens_append_mark other, tokens_symbol other plain, List.singleton_append]
  · intro before name after leading trailing
    simp only [parse, String.toList_append]
    rw [tokens_append_trailing trailing, tokens_gap_append leading]
  · intro parts
    have other : isAlphanumeric '.' = false := by decide
    have plain : isSeparator '.' = false := by decide
    rw [parse, String.toList_intercalate]
    exact (tokens_intercalate_mark other plain _).trans (by rw [List.map_map]; rfl)

theorem waterGauge_composed :
    isSeparator '-' = true ∧ isAlphanumeric '$' = false ∧ isSeparator '$' = false ∧
      (∀ c ∈ "_ -".toList, isSeparator c = true) ∧
      (parse "H2O-gpsFix" vehicleInitialisms).tokens =
        [.initialism "H2O", .initialism "GPS", .word "fix"] ∧
      (parse "H2O$gpsFix" vehicleInitialisms).tokens =
        [.initialism "H2O", .symbol '$', .initialism "GPS", .word "fix"] ∧
      (parse "H2O_ -gpsFix" vehicleInitialisms).tokens =
        [.initialism "H2O", .initialism "GPS", .word "fix"] ∧
      (parse "_ -H2O_ -" vehicleInitialisms).tokens = [.initialism "H2O"] ∧
      (parse "H2O.gpsFix.H2O" vehicleInitialisms).tokens =
        [.initialism "H2O", .symbol '.', .initialism "GPS", .word "fix", .symbol '.',
          .initialism "H2O"] := by
  have water : (parse "H2O" vehicleInitialisms).tokens = [.initialism "H2O"] := by
    simp only [parse, String.reduceToList]
    decide +kernel
  have gauge : (parse "gpsFix" vehicleInitialisms).tokens = [.initialism "GPS", .word "fix"] := by
    simp only [parse, String.reduceToList]
    decide +kernel
  have separators : ∀ c ∈ "_ -".toList, isSeparator c = true := by
    simp
    decide
  obtain ⟨composed, trimmed, dotted⟩ := parse_composed vehicleInitialisms
  obtain ⟨separated, marked, spaced⟩ := composed "H2O" "gpsFix"
  refine ⟨by decide, by decide, by decide, separators, ?_, ?_, ?_, ?_, ?_⟩
  · simpa [water, gauge] using separated '-' (by decide)
  · simpa [water, gauge] using marked '$' (by decide) (by decide)
  · simpa [water, gauge] using spaced "_ -" (by decide) separators
  · simpa [water] using trimmed "_ -" "H2O" "_ -" separators separators
  · simpa [water, gauge] using dotted ["H2O", "gpsFix", "H2O"]

end Identifier

end BindingPress.Naming
