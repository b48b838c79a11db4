import BindingPress.Proofs.Segments
import Mathlib

/-!
Texts that differ in case only. Initialisms are found in the one exactly where they are found in the
other, so a run whose pieces are words up to case is read as these words.
-/

namespace BindingPress

namespace Text

theorem upper_eq_map {text : List Char} (ascii : ∀ c ∈ text, c.toNat < 128) :
    upper text = text.map Char.toUpper := by
  rw [upper, List.map_eq_flatMap]
  apply List.flatMap_congr
  intro c member
  rw [upperChar, if_pos (ascii c member)]

theorem lowerAfter_eq_map (before : List Char) {text : List Char}
    (ascii : ∀ c ∈ text, c.toNat < 128) : lowerAfter before text = text.map Char.toLower := by
  induction text generalizing before with
  | nil => rfl
  | cons c rest ih =>
      obtain ⟨here, later⟩ := List.forall_mem_cons.mp ascii
      have other : c ≠ 'Σ' := by
        rintro rfl
        contradiction
      rw [lowerAfter, if_neg other, lowerChar, if_pos here, ih _ later, List.map_cons,
        List.singleton_append]

theorem lower_eq_map {text : List Char} (ascii : ∀ c ∈ text, c.toNat < 128) :
    lower text = text.map Char.toLower :=
  lowerAfter_eq_map [] ascii

end Text

namespace Naming

/-- The texts are the same, character by character, if case is left aside. -/
def Alike (text other : List Char) : Prop :=
  text.map Text.upperChar = other.map Text.upperChar

section

variable {initialisms : Initialisms} {text other : List Char}

theorem Alike.upper_eq (alike : Alike text other) : Text.upper text = Text.upper other := by
  rw [Text.upper, Text.upper, List.flatMap_def, List.flatMap_def, alike]

theorem Alike.contains_eq (alike : Alike text other) :
    initialisms.contains text = initialisms.contains other := by
  rw [Initialisms.contains, Initialisms.contains, alike.upper_eq]

theorem Alike.isCovered (alike : Alike text other) (covered : IsCovered initialisms text) :
    IsCovered initialisms other := by
  obtain ⟨parts, rfl, held⟩ := covered
  induction parts generalizing other with
  | nil =>
      have empty : other = [] := by simpa [Alike] using alike.symm
      exact ⟨[], by simp [empty], by simp⟩
  | cons part parts ih =>
      obtain ⟨⟨nonempty, first⟩, later⟩ := List.forall_mem_cons.mp held
      rw [Alike, List.flatten_cons, List.map_append] at alike
      obtain ⟨front, rest, rfl, alikeFront, alikeRest⟩ := List.map_eq_append_iff.mp alike.symm
      have same : Alike part front := alikeFront.symm
      obtain ⟨others, cover⟩ := ih later alikeRest.symm
      have filled : front ≠ [] := by
        rintro rfl
        exact nonempty (by simpa [Alike] using same)
      exact ⟨front :: others, cover.cons filled (same.contains_eq ▸ first)⟩

theorem alike_flatten {words pieces : List (List Char)} (alike : List.Forall₂ Alike words pieces) :
    Alike words.flatten pieces.flatten := by
  induction alike with
  | nil => rfl
  | cons first _ ih =>
      rw [Alike] at first ih ⊢
      rw [List.flatten_cons, List.flatten_cons, List.map_append, List.map_append, first, ih]

theorem exists_alike_infix {words pieces group : List (List Char)}
    (alike : List.Forall₂ Alike words pieces) (within : group <:+: pieces) :
    ∃ counterpart, counterpart <:+: words ∧ List.Forall₂ Alike counterpart group := by
  obtain ⟨before, after, rfl⟩ := within
  have cut : ((before ++ group ++ after).drop before.length).take group.length = group := by simp
  have aligned := List.forall₂_take group.length (List.forall₂_drop before.length alike)
  rw [cut] at aligned
  refine ⟨_, ?_, aligned⟩
  exact (List.take_prefix _ _).isInfix.trans (List.drop_suffix _ _).isInfix

theorem AreFree.alike {words pieces : List (List Char)} (free : AreFree initialisms words)
    (alike : List.Forall₂ Alike words pieces) : AreFree initialisms pieces where
  unmatched group nonempty within := by
    obtain ⟨counterpart, inner, same⟩ := exists_alike_infix alike within
    have filled : counterpart ≠ [] := by
      rintro rfl
      exact nonempty (List.forall₂_nil_left_iff.mp same)
    rw [← (alike_flatten same).contains_eq]
    exact free.unmatched counterpart filled inner
  uncovered piece member := by
    obtain ⟨counterpart, inner, same⟩ :=
      exists_alike_infix alike ((List.singleton_infix_iff piece pieces).mpr member)
    obtain ⟨word, _, here, _, rfl⟩ := List.forall₂_cons_right_iff.mp same
    intro covered
    exact free.uncovered word (inner.subset (by simp)) (Alike.isCovered here.symm covered)

theorem segments_eq_words {run : List Char} {words : List (List Char)}
    (alphanumeric : ∀ c ∈ run, isAlphanumeric c = true)
    (alike : List.Forall₂ Alike words (casePieces run)) (free : AreFree initialisms words) :
    segments initialisms run = (casePieces run).map .word := by
  rw [segments_of_alphanumeric alphanumeric]
  exact (pieceSegments_grouping initialisms (casePieces run)).eq_words (free.alike alike)

def asWords (words : List (List Char)) : List Token :=
  words.map fun word => .word (String.ofList word)

structure Respells (word piece : List Char) : Prop where
  alike : Alike word piece
  lowered : Text.lower piece = word

theorem map_lower_of_respells {words pieces : List (List Char)}
    (respelled : List.Forall₂ Respells words pieces) : pieces.map Text.lower = words := by
  induction respelled with
  | nil => rfl
  | cons first _ ih => rw [List.map_cons, first.lowered, ih]

theorem tokens_eq_words {run : List Char} {words : List (List Char)}
    (alphanumeric : ∀ c ∈ run, isAlphanumeric c = true)
    (respelled : List.Forall₂ Respells words (casePieces run)) (free : AreFree initialisms words) :
    tokens initialisms run = asWords words := by
  have alike := respelled.imp fun _ _ spelled => spelled.alike
  rw [tokens, segments_eq_words alphanumeric alike free, List.map_map]
  conv_rhs => rw [← map_lower_of_respells respelled, asWords, List.map_map]
  rfl

end

theorem casePieces_cons_append (c : Char) (run rest : List Char)
    (kept : ∀ d ∈ run, Text.isUppercase d = false)
    (boundary : ∀ previous ∈ (c :: run).getLast?, ∀ d after, rest = d :: after →
      startsPiece previous d after.head? = true) :
    casePieces (c :: run ++ rest) = (c :: run) :: casePieces rest := by
  induction run generalizing c with
  | nil =>
      cases rest with
      | nil => rfl
      | cons d after =>
          have starts := boundary c rfl d after rfl
          rw [List.cons_append, List.nil_append, casePieces, if_pos starts]
  | cons d run ih =>
      rw [List.forall_mem_cons] at kept
      have stays : startsPiece c d (run ++ rest).head? = false := by
        simp [startsPiece, kept.1]
      have later := ih d kept.2 (by rwa [List.getLast?_cons_cons] at boundary)
      rw [List.cons_append] at later
      rw [List.cons_append, List.cons_append, casePieces, if_neg (Bool.eq_false_iff.mp stays),
        later]

theorem casePieces_eq_singleton {run : List Char} (nonempty : run ≠ [])
    (kept : ∀ c ∈ run, Text.isUppercase c = false) : casePieces run = [run] := by
  obtain ⟨c, rest, rfl⟩ := List.exists_cons_of_ne_nil nonempty
  have pieces := casePieces_cons_append c rest [] (List.forall_mem_cons.mp kept).2 (by simp)
  rwa [List.append_nil, casePieces] at pieces

/-- Changes at most the case of a character, as far as ASCII goes. -/
structure IsRecasing (shift : Char → Char) : Prop where
  ascii : ∀ c : Char, c.toNat < 128 → (shift c).toNat < 128
  alphanumeric : ∀ c : Char, c.toNat < 128 → isAlphanumeric (shift c) = isAlphanumeric c
  upper : ∀ c : Char, c.toNat < 128 → (shift c).toUpper = c.toUpper
  lower : ∀ c : Char, c.toNat < 128 → (shift c).toLower = c.toLower
  mark : ∀ c : Char, c.toNat < 128 → isAlphanumeric c = false → shift c = c

theorem isRecasing_id : IsRecasing id where
  ascii _ held := held
  alphanumeric _ _ := rfl
  upper _ _ := rfl
  lower _ _ := rfl
  mark _ _ _ := rfl

theorem isRecasing_toUpper : IsRecasing Char.toUpper where
  ascii := by apply Text.forall_ascii; decide +kernel
  alphanumeric := by apply Text.forall_ascii; decide +kernel
  upper := by apply Text.forall_ascii; decide +kernel
  lower := by apply Text.forall_ascii; decide +kernel
  mark := by apply Text.forall_ascii; decide +kernel

theorem isRecasing_toLower : IsRecasing Char.toLower where
  ascii := by apply Text.forall_ascii; decide +kernel
  alphanumeric := by apply Text.forall_ascii; decide +kernel
  upper := by apply Text.forall_ascii; decide +kernel
  lower := by apply Text.forall_ascii; decide +kernel
  mark := by apply Text.forall_ascii; decide +kernel

namespace IsRecasing

variable {shift : Char → Char} {text : List Char}

theorem map_ascii (recasing : IsRecasing shift) (ascii : ∀ c ∈ text, c.toNat < 128) :
    ∀ c ∈ text.map shift, c.toNat < 128 := by
  rw [List.forall_mem_map]
  exact fun c member => recasing.ascii c (ascii c member)

theorem map_alphanumeric (recasing : IsRecasing shift) (ascii : ∀ c ∈ text, c.toNat < 128)
    (alphanumeric : ∀ c ∈ text, isAlphanumeric c = true) :
    ∀ c ∈ text.map shift, isAlphanumeric c = true := by
  rw [List.forall_mem_map]
  intro c member
  rw [recasing.alphanumeric c (ascii c member)]
  exact alphanumeric c member

theorem upper_map (recasing : IsRecasing shift) (ascii : ∀ c ∈ text, c.toNat < 128) :
    Text.upper (text.map shift) = text.map Char.toUpper := by
  rw [Text.upper_eq_map (recasing.map_ascii ascii), List.map_map]
  exact List.map_congr_left fun c member => recasing.upper c (ascii c member)

theorem lower_map (recasing : IsRecasing shift) (ascii : ∀ c ∈ text, c.toNat < 128) :
    Text.lower (text.map shift) = text.map Char.toLower := by
  rw [Text.lower_eq_map (recasing.map_ascii ascii), List.map_map]
  exact List.map_congr_left fun c member => recasing.lower c (ascii c member)

theorem alike (recasing : IsRecasing shift) (ascii : ∀ c ∈ text, c.toNat < 128) :
    Alike text (text.map shift) := by
  rw [Alike, List.map_map]
  apply List.map_congr_left
  intro c member
  have held := ascii c member
  rw [Function.comp_apply, Text.upperChar, Text.upperChar, if_pos held,
    if_pos (recasing.ascii c held), recasing.upper c held]

end IsRecasing

end Naming
end BindingPress
