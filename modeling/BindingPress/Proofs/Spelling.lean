import BindingPress.Proofs.Segments

/-!
What the tokens of a name stand for. Every token is read off a segment of the name; the segments
stand in the name in the order of the tokens, and only separators lie between them.
-/

namespace BindingPress.Naming

def Segment.IsSound (initialisms : Initialisms) : Segment → Prop
  | word piece =>
      piece ≠ [] ∧ (∀ c ∈ piece, isAlphanumeric c = true) ∧ ¬IsCovered initialisms piece
  | initialism piece =>
      piece ≠ [] ∧ (∀ c ∈ piece, isAlphanumeric c = true) ∧ initialisms.contains piece = true
  | symbol mark => isAlphanumeric mark = false ∧ isSeparator mark = false

section

variable {initialisms : Initialisms}

theorem Grouping.isSound {pieces : List (List Char)} {segments : List Segment}
    (grouping : Grouping initialisms pieces segments)
    (filled : ∀ piece ∈ pieces, piece ≠ [])
    (alphanumeric : ∀ c ∈ pieces.flatten, isAlphanumeric c = true) :
    ∀ segment ∈ segments, segment.IsSound initialisms := by
  induction grouping with
  | done => simp
  | @matched group rest segments nonempty held _ _ ih =>
      rw [List.forall_mem_append] at filled
      rw [List.flatten_append, List.forall_mem_append] at alphanumeric
      have spelled : group.flatten ≠ [] := by
        obtain ⟨piece, others, rfl⟩ := List.exists_cons_of_ne_nil nonempty
        simp [filled.1 piece (by simp)]
      rw [List.forall_mem_cons]
      exact ⟨⟨spelled, alphanumeric.1, held⟩, ih filled.2 alphanumeric.2⟩
  | @split piece rest parts segments _ cover _ ih =>
      rw [List.forall_mem_cons] at filled
      rw [List.flatten_cons, List.forall_mem_append, ← cover.joined] at alphanumeric
      rw [List.forall_mem_append]
      refine ⟨?_, ih filled.2 alphanumeric.2⟩
      intro segment member
      obtain ⟨part, placed, rfl⟩ := List.mem_map.mp member
      obtain ⟨nonempty, held⟩ := cover.held part placed
      refine ⟨nonempty, ?_, held⟩
      intro c inside
      exact alphanumeric.1 c (List.mem_flatten.mpr ⟨part, placed, inside⟩)
  | @word piece rest segments _ uncovered _ ih =>
      rw [List.forall_mem_cons] at filled
      rw [List.flatten_cons, List.forall_mem_append] at alphanumeric
      rw [List.forall_mem_cons]
      exact ⟨⟨filled.1, alphanumeric.1, uncovered⟩, ih filled.2 alphanumeric.2⟩

theorem isSound_of_mem_runSegments {run : List Char} {segment : Segment}
    (alphanumeric : ∀ c ∈ run, isAlphanumeric c = true)
    (member : segment ∈ runSegments initialisms run) : segment.IsSound initialisms := by
  have grouping := pieceSegments_grouping initialisms (casePieces run)
  refine grouping.isSound (fun piece placed => ne_nil_of_mem_casePieces placed) ?_ segment member
  rwa [casePieces_flatten]

theorem isSound_of_mem_segments {name : List Char} {segment : Segment}
    (member : segment ∈ segments initialisms name) : segment.IsSound initialisms := by
  fun_induction segments initialisms name with
  | case1 => simp at member
  | case2 c rest letter ih =>
      rcases List.mem_append.mp member with here | later
      · refine isSound_of_mem_runSegments ?_ here
        rw [List.forall_mem_cons]
        exact ⟨letter, fun d placed => List.mem_takeWhile_imp placed⟩
      · exact ih later
  | case3 c rest other separator ih => exact ih member
  | case4 c rest other plain ih =>
      rcases List.mem_cons.mp member with rfl | later
      · exact ⟨Bool.eq_false_iff.mpr other, Bool.eq_false_iff.mpr plain⟩
      · exact ih later

end

/-- The parts follow one another in the name with only separators before, between and after them. -/
inductive Placed : List (List Char) → List Char → Prop
  | done : Placed [] []
  | separator {c : Char} {parts : List (List Char)} {rest : List Char} :
      isSeparator c = true → Placed parts rest → Placed parts (c :: rest)
  | next {part : List Char} {parts : List (List Char)} {rest : List Char} :
      Placed parts rest → Placed (part :: parts) (part ++ rest)

theorem Placed.append {parts : List (List Char)} {rest : List Char} (placed : Placed parts rest)
    (front : List (List Char)) : Placed (front ++ parts) (front.flatten ++ rest) := by
  induction front with
  | nil => exact placed
  | cons part front ih =>
      rw [List.cons_append, List.flatten_cons, List.append_assoc]
      exact .next ih

theorem segments_placed (initialisms : Initialisms) (name : List Char) :
    Placed ((segments initialisms name).map Segment.chars) name := by
  fun_induction segments initialisms name with
  | case1 => exact .done
  | case2 c rest letter ih =>
      have placed := ih.append
        ((runSegments initialisms (c :: rest.takeWhile isAlphanumeric)).map Segment.chars)
      rwa [← List.flatMap_def, runSegments_chars, ← List.map_append, List.cons_append,
        List.takeWhile_append_dropWhile] at placed
  | case3 c rest other separator ih => exact .separator separator ih
  | case4 c rest other plain ih => exact .next ih

inductive Stands (initialisms : Initialisms) : Token → List Char → Prop
  | word {part : List Char} : part ≠ [] → (∀ c ∈ part, isAlphanumeric c = true) →
      Stands initialisms (.word (String.ofList (Text.lower part))) part
  | initialism {part : List Char} : part ≠ [] → (∀ c ∈ part, isAlphanumeric c = true) →
      String.ofList (Text.upper part) ∈ initialisms.words →
      Stands initialisms (.initialism (String.ofList (Text.upper part))) part
  | symbol {mark : Char} : isAlphanumeric mark = false → isSeparator mark = false →
      Stands initialisms (.symbol mark) [mark]

theorem Segment.IsSound.stands {initialisms : Initialisms} {segment : Segment}
    (sound : segment.IsSound initialisms) : Stands initialisms segment.token segment.chars := by
  cases segment with
  | word piece => exact .word sound.1 sound.2.1
  | initialism piece =>
      exact .initialism sound.1 sound.2.1 (List.contains_iff_mem.mp sound.2.2)
  | symbol mark => exact .symbol sound.1 sound.2

theorem Stands.ne_nil {initialisms : Initialisms} {token : Token} {part : List Char}
    (stands : Stands initialisms token part) : part ≠ [] := by
  cases stands with
  | word nonempty _ => exact nonempty
  | initialism nonempty _ _ => exact nonempty
  | symbol _ _ => simp

theorem tokens_eq_nil_iff {initialisms : Initialisms} {name : List Char} :
    tokens initialisms name = [] ↔ ∀ c ∈ name, isSeparator c = true := by
  have spelled := segments_chars initialisms name
  rw [tokens, List.map_eq_nil_iff]
  constructor
  · intro empty
    rw [empty, List.flatMap_nil] at spelled
    simpa using spelled.symm
  · intro separators
    have nothing : name.filter (fun c => !isSeparator c) = [] := by simpa using separators
    rw [nothing, List.flatMap_eq_nil_iff] at spelled
    rw [List.eq_nil_iff_forall_not_mem]
    intro segment member
    exact (isSound_of_mem_segments member).stands.ne_nil (spelled segment member)

/-- Nothing but separators is lost when a name is read, nothing is read twice, and nothing is read
out of order. -/
theorem Identifier.parse_stands (raw : String) (initialisms : Initialisms) :
    (∃ parts, Placed parts raw.toList ∧
      parts.flatten = raw.toList.filter (fun c => !isSeparator c) ∧
      List.Forall₂ (Stands initialisms) (parse raw initialisms).tokens parts) ∧
    ((parse raw initialisms).tokens = [] ↔ ∀ c ∈ raw.toList, isSeparator c = true) := by
  refine ⟨⟨(segments initialisms raw.toList).map Segment.chars, ?_, ?_, ?_⟩, ?_⟩
  · exact segments_placed initialisms raw.toList
  · rw [← List.flatMap_def]
    exact segments_chars initialisms raw.toList
  · refine List.forall₂_map_left_iff.mpr (List.forall₂_map_right_iff.mpr ?_)
    rw [List.forall₂_same]
    intro segment member
    exact (isSound_of_mem_segments member).stands
  · exact tokens_eq_nil_iff

end BindingPress.Naming
