import BindingPress.Proofs.Grouping
import Mathlib.Algebra.Order.BigOperators.Group.List
import Mathlib.Algebra.Order.Group.Nat

/-!
The parts that a name is cut into are the name: put together again, they spell it without its
separators.
-/

namespace BindingPress.Naming

theorem runSegments_chars (initialisms : Initialisms) (run : List Char) :
    (runSegments initialisms run).flatMap Segment.chars = run := by
  rw [runSegments, (pieceSegments_grouping initialisms (casePieces run)).chars, casePieces_flatten]

theorem segments_append (initialisms : Initialisms) (name rest : List Char)
    (boundary : ∀ c ∈ rest.head?, isAlphanumeric c = false) :
    segments initialisms (name ++ rest) =
      segments initialisms name ++ segments initialisms rest := by
  have stops : rest.takeWhile isAlphanumeric = [] ∧ rest.dropWhile isAlphanumeric = rest := by
    cases rest with
    | nil => exact ⟨rfl, rfl⟩
    | cons c after => simp [boundary c rfl]
  fun_induction segments initialisms name with
  | case1 => rfl
  | case2 c name letter ih =>
      have taken : (name ++ rest).takeWhile isAlphanumeric = name.takeWhile isAlphanumeric := by
        rw [List.takeWhile_append, stops.1, List.append_nil]
        split
        next whole => exact ((List.takeWhile_prefix _).eq_of_length whole).symm
        next => rfl
      have dropped : (name ++ rest).dropWhile isAlphanumeric =
          name.dropWhile isAlphanumeric ++ rest := by
        rw [List.dropWhile_append, stops.2]
        split
        next empty => rw [List.isEmpty_iff.mp empty, List.nil_append]
        next => rfl
      rw [List.cons_append, segments, if_pos letter, taken, dropped, ih, List.append_assoc]
  | case3 c name other separator ih =>
      rw [List.cons_append, segments, if_neg other, if_pos separator, ih]
  | case4 c name other plain ih =>
      rw [List.cons_append, segments, if_neg other, if_neg plain, ih, List.cons_append]

theorem segments_chars (initialisms : Initialisms) (name : List Char) :
    (segments initialisms name).flatMap Segment.chars =
      name.filter fun c => !isSeparator c := by
  fun_induction segments initialisms name with
  | case1 => rfl
  | case2 c rest letter ih =>
      have kept : (rest.takeWhile isAlphanumeric).filter (fun d => !isSeparator d) =
          rest.takeWhile isAlphanumeric := by
        rw [List.filter_eq_self]
        intro d member
        have alphanumeric := List.mem_takeWhile_imp member
        simp [not_isSeparator_of_isAlphanumeric alphanumeric]
      rw [List.flatMap_append, runSegments_chars, ih, List.cons_append,
        List.filter_cons_of_pos (by simp [not_isSeparator_of_isAlphanumeric letter])]
      conv_rhs => rw [← List.takeWhile_append_dropWhile (p := isAlphanumeric) (l := rest),
        List.filter_append, kept]
  | case3 c rest other separator ih =>
      rw [ih, List.filter_cons_of_neg (by simp [separator])]
  | case4 c rest other plain ih =>
      rw [List.flatMap_cons, ih, List.filter_cons_of_pos (by simp [plain])]
      rfl

theorem mem_of_mem_segments {initialisms : Initialisms} {name : List Char} {segment : Segment}
    {c : Char} (member : segment ∈ segments initialisms name) (placed : c ∈ segment.chars) :
    c ∈ name ∧ isSeparator c = false := by
  have spelled : c ∈ (segments initialisms name).flatMap Segment.chars :=
    List.mem_flatMap.mpr ⟨segment, member, placed⟩
  rw [segments_chars] at spelled
  simpa using List.mem_filter.mp spelled

namespace Segment

/-- The segment is spelled as it stands in a camel-case name. -/
def IsSettled (segment : Segment) : Prop :=
  segment.token.camel = segment.chars

instance (segment : Segment) : Decidable segment.IsSettled :=
  inferInstanceAs (Decidable (segment.token.camel = segment.chars))

theorem length_chars_le_camel (segment : Segment) :
    segment.chars.length ≤ segment.token.camel.length := by
  cases segment with
  | word piece =>
      have lowered := Text.length_le_lowerAfter [] piece
      have capitalized := length_le_capitalize (Text.lower piece)
      simp only [token, chars, Token.camel, String.toList_ofList]
      exact lowered.trans capitalized
  | initialism piece =>
      simp only [token, chars, Token.camel, Token.text, String.toList_ofList]
      exact Text.length_le_upper piece
  | symbol mark => rfl

theorem not_isSeparator_of_mem_camel {segment : Segment} {d : Char}
    (plain : ∀ c ∈ segment.chars, isSeparator c = false) (member : d ∈ segment.token.camel) :
    isSeparator d = false := by
  cases segment with
  | word piece =>
      simp only [token, Token.camel, String.toList_ofList] at member
      refine not_isSeparator_of_mem_capitalize (fun c placed => ?_) member
      exact Text.not_isSeparator_of_mem_lowerAfter plain placed
  | initialism piece =>
      simp only [token, Token.camel, Token.text, String.toList_ofList] at member
      exact Text.not_isSeparator_of_mem_upper plain member
  | symbol mark => exact plain d member

end Segment

namespace Identifier

theorem toList_upperCamel_parse (raw : String) (initialisms : Initialisms) :
    (parse raw initialisms).upperCamel.toList =
      (segments initialisms raw.toList).flatMap fun segment => segment.token.camel := by
  simp only [upperCamel, parse, Naming.tokens, String.toList_ofList, List.flatMap_map]

theorem not_isSeparator_of_mem_upperCamel {raw : String} {initialisms : Initialisms} {c : Char}
    (member : c ∈ (parse raw initialisms).upperCamel.toList) : isSeparator c = false := by
  rw [toList_upperCamel_parse] at member
  obtain ⟨segment, placed, shown⟩ := List.mem_flatMap.mp member
  exact Segment.not_isSeparator_of_mem_camel
    (fun d spelled => (mem_of_mem_segments placed spelled).2) shown

end Identifier

theorem flatMap_eq_iff_of_length_le {α β : Type} {items : List α} {short long : α → List β}
    (bounded : ∀ item ∈ items, (short item).length ≤ (long item).length) :
    items.flatMap long = items.flatMap short ↔ ∀ item ∈ items, long item = short item := by
  constructor
  · intro same
    induction items with
    | nil => simp
    | cons item rest ih =>
        obtain ⟨here, later⟩ := List.forall_mem_cons.mp bounded
        have total : (rest.flatMap short).length ≤ (rest.flatMap long).length := by
          rw [List.length_flatMap, List.length_flatMap]
          exact List.sum_le_sum later
        rw [List.flatMap_cons, List.flatMap_cons] at same
        have lengths := congrArg List.length same
        rw [List.length_append, List.length_append] at lengths
        obtain ⟨sameHere, sameLater⟩ := List.append_inj same (by omega)
        exact List.forall_mem_cons.mpr ⟨sameHere, ih later sameLater⟩
  · intro same
    exact List.flatMap_congr same

/-- A name without separators is its own upper camel form if all its parts are settled, and only
then. -/
theorem upperCamel_parse_eq_iff {name : String} {initialisms : Initialisms}
    (plain : ∀ c ∈ name.toList, isSeparator c = false) :
    (Identifier.parse name initialisms).upperCamel = name ↔
      ∀ segment ∈ segments initialisms name.toList, segment.IsSettled := by
  have spelled : (segments initialisms name.toList).flatMap Segment.chars = name.toList := by
    rw [segments_chars, List.filter_eq_self]
    intro c member
    simp [plain c member]
  have bounded : ∀ segment ∈ segments initialisms name.toList,
      segment.chars.length ≤ segment.token.camel.length :=
    fun segment _ => segment.length_chars_le_camel
  rw [← String.toList_inj, Identifier.toList_upperCamel_parse]
  conv_lhs => rhs; rw [← spelled]
  exact flatMap_eq_iff_of_length_le bounded

end BindingPress.Naming
