import BindingPress.Proofs.BlockSpacing

/-!
White-space control as passes over a source. Dropping line ends and stripping indentation at once is
the same as dropping line ends first and stripping what that leaves. Stripping a second time changes
nothing: it leaves exactly those sources as they are that have no indentation before a block tag.
-/

namespace BindingPress.Template

theorem stripIndentation_stripIndentation (atStart : Bool) (text : List Char) :
    stripIndentation atStart (stripIndentation atStart text) = stripIndentation atStart text := by
  obtain ⟨kept, blanks, rfl, solid, blank⟩ := exists_blanks text
  have stripped := stripIndentation_append atStart solid blank
  by_cases starts : kept = [] ∧ atStart = true ∨ kept.getLast? = some '\n'
  · have noBlanks : IsBlanks [] := by simp [IsBlanks]
    have again := stripIndentation_append atStart solid noBlanks
    rw [List.append_nil, if_pos starts] at again
    rw [stripped, if_pos starts, again]
  · rw [if_neg starts] at stripped
    rw [stripped, stripped]

theorem EndsBlank.append {text : List Char} (ends : EndsBlank text) (front : List Char) :
    EndsBlank (front ++ text) := by
  rw [EndsBlank, List.getLast?_append]
  rcases ends with space | tab
  · exact .inl (by rw [space, Option.some_or])
  · exact .inr (by rw [tab, Option.some_or])

theorem Gap.startsLine_of_text {gap : Gap} (placed : gap.Placed) {line blanks : List Char}
    (split : gap.text = line ++ blanks) (blank : IsBlanks blanks)
    (starts : line = [] ∧ gap.previous = none ∨ line.getLast? = some '\n') : gap.StartsLine := by
  refine ⟨gap.front ++ line, blanks, by rw [split, List.append_assoc], blank, ?_⟩
  rcases starts with ⟨rfl, first⟩ | ends
  · rcases placed with ⟨nothing, _⟩ | ⟨_, kind, follows⟩
    · exact .inl (by rw [nothing, List.append_nil])
    · rw [first] at follows
      contradiction
  · exact .inr (by rw [List.getLast?_append, ends, Option.some_or])

namespace WhitespaceControl

theorem adjusted_adjusted {first second whole : WhitespaceControl}
    (composed : ∀ previous next text, second.spaced previous next (first.spaced previous next text) =
      whole.spaced previous next text) (previous : Option TagKind) (cut : Scan) :
    second.adjusted previous (first.adjusted previous cut) = whole.adjusted previous cut := by
  induction cut generalizing previous with
  | text last => rw [adjusted, adjusted, adjusted, composed]
  | unclosed before kind tail => rw [adjusted, adjusted, adjusted, composed]
  | tag before kind whole rest ih => rw [adjusted, adjusted, adjusted, composed, ih]

theorem apply_apply {first second whole : WhitespaceControl}
    (composed : ∀ previous next text, second.spaced previous next (first.spaced previous next text) =
      whole.spaced previous next text) (source : List Char) :
    second.apply (first.apply source) = whole.apply source := by
  calc second.apply (first.apply source)
      = (second.adjusted none (scan (first.apply source))).source := second.adjust_eq_source none _
    _ = (whole.adjusted none (scan source)).source := by
        rw [scan_apply, adjusted_adjusted composed]
    _ = whole.apply source := (whole.adjust_eq_source none _).symm

theorem adjusted_eq_self_iff (control : WhitespaceControl) (previous : Option TagKind)
    (front : List Char) (cut : Scan) :
    control.adjusted previous cut = cut ↔ ∀ gap ∈ cut.gapsFrom front previous,
      control.spaced gap.previous gap.next gap.text = gap.text := by
  induction cut generalizing previous front with
  | text last => simp [adjusted, Scan.gapsFrom]
  | unclosed before kind tail => simp [adjusted, Scan.gapsFrom]
  | tag before kind whole rest ih =>
      rw [Scan.gapsFrom, List.forall_mem_cons, ← ih]
      simp [adjusted]

theorem apply_eq_self_iff (control : WhitespaceControl) (source : List Char) :
    control.apply source = source ↔
      ∀ gap ∈ (scan source).gaps, control.spaced gap.previous gap.next gap.text = gap.text := by
  rw [Scan.gaps, ← adjusted_eq_self_iff, ← scan_apply]
  constructor
  · intro same
    rw [same]
  · intro same
    rw [← (scan_sound (control.apply source)).2, same, (scan_sound source).2]

def stripping : WhitespaceControl :=
  { lstripBlocks := true, trimBlocks := false }

def trimming : WhitespaceControl :=
  { lstripBlocks := false, trimBlocks := true }

def trimmingAndStripping : WhitespaceControl :=
  { lstripBlocks := true, trimBlocks := true }

theorem stripping_spaced (previous next : Option TagKind) (text : List Char) :
    stripping.spaced previous next text =
      if next.any (·.isBlock) then stripIndentation previous.isNone text else text := by
  cases next <;> rfl

theorem stripping_spaced_spaced (previous next : Option TagKind) (text : List Char) :
    stripping.spaced previous next (stripping.spaced previous next text) =
      stripping.spaced previous next text := by
  simp only [stripping_spaced]
  split
  next => exact stripIndentation_stripIndentation previous.isNone text
  next => rfl

theorem stripping_spaced_trimming (previous next : Option TagKind) (text : List Char) :
    stripping.spaced previous next (trimming.spaced previous next text) =
      trimmingAndStripping.spaced previous next text := by
  cases next <;> rfl

theorem stripping_spaced_eq_self_iff {gap : Gap} (placed : gap.Placed) :
    stripping.spaced gap.previous gap.next gap.text = gap.text ↔
      (gap.precedesBlock = true → gap.StartsLine → ¬EndsBlank gap.text) := by
  constructor
  · intro same block starts ends
    rw [← same, stripping.spaced_endsBlank rfl block placed starts] at ends
    exact absurd ends.1 (by decide)
  · intro flush
    rw [stripping_spaced]
    split
    next block =>
      obtain ⟨kept, blanks, split, solid, blank⟩ := exists_blanks gap.text
      rw [split, stripIndentation_append _ solid blank]
      split
      next starts =>
        have first : kept = [] ∧ gap.previous = none ∨ kept.getLast? = some '\n' := by
          simpa using starts
        have bare := flush block (Gap.startsLine_of_text placed split blank first)
        rw [split] at bare
        have nothing : blanks = [] := by
          by_contra nonempty
          exact bare (((endsBlank_iff_ne_nil blank).mpr nonempty).append kept)
        rw [nothing, List.append_nil]
      next => rfl
    next => rfl

def IsFlush (source : List Char) : Prop :=
  ∀ gap ∈ (scan source).gaps, gap.precedesBlock = true → gap.StartsLine → ¬EndsBlank gap.text

theorem stripping_apply_eq_self_iff (source : List Char) :
    stripping.apply source = source ↔ IsFlush source := by
  have placed : ∀ gap ∈ (scan source).gaps, gap.Placed :=
    (scan_sound source).1.gaps_placed fun _ _ => .inl ⟨rfl, rfl⟩
  rw [apply_eq_self_iff]
  exact forall₂_congr fun gap member => stripping_spaced_eq_self_iff (placed gap member)

/-- Stripping is done after one pass, which leaves no indentation before a block tag, and it comes
after the dropping of line ends when both are asked for. -/
theorem apply_stripping (source : List Char) :
    stripping.apply (stripping.apply source) = stripping.apply source ∧
    trimmingAndStripping.apply source = stripping.apply (trimming.apply source) ∧
    (stripping.apply source = source ↔ IsFlush source) := by
  refine ⟨?_, ?_, stripping_apply_eq_self_iff source⟩
  · exact apply_apply stripping_spaced_spaced source
  · exact (apply_apply stripping_spaced_trimming source).symm

-- The other way round, the indentation is gone before the line end that hides it.
example :
    let source := "\x7b% if x %\x7d\n  \x7b% endif %\x7d".toList
    trimming.apply (stripping.apply source) ≠ trimmingAndStripping.apply source := by
  decide +kernel

end WhitespaceControl
end BindingPress.Template
