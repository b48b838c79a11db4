import BindingPress.Proofs.TagScan
import Mathlib.Data.List.DropRight
import Mathlib.Data.List.Forall2

/-!
What white-space control does to the text around block tags. It takes off a line end after a block
tag and blanks before one, and leaves all tags as they are. The line end is taken off first, so a
block tag on a line of its own keeps its indentation when the line before it is a block tag too.
-/

namespace BindingPress.Template

/-- A text between two tags, or between a tag and the start or the end of the source. -/
structure Gap where
  /-- All of the source before the text. -/
  front : List Char
  previous : Option TagKind
  text : List Char
  /-- The tag that follows, also one that is not closed. -/
  next : Option TagKind
deriving Repr, DecidableEq

namespace Gap

def followsBlock (gap : Gap) : Bool :=
  gap.previous.any (·.isBlock)

def precedesBlock (gap : Gap) : Bool :=
  gap.next.any (·.isBlock)

end Gap

namespace Scan

def gapsFrom (front : List Char) (previous : Option TagKind) : Scan → List Gap
  | .text last => [⟨front, previous, last, none⟩]
  | .unclosed before kind _ => [⟨front, previous, before, some kind⟩]
  | .tag before kind whole rest =>
      ⟨front, previous, before, some kind⟩ :: rest.gapsFrom (front ++ before ++ whole) (some kind)

def gaps (cut : Scan) : List Gap :=
  cut.gapsFrom [] none

end Scan

section Blanks

def IsBlanks (text : List Char) : Prop :=
  ∀ c ∈ text, c = ' ' ∨ c = '\t'

def EndsBlank (text : List Char) : Prop :=
  text.getLast? = some ' ' ∨ text.getLast? = some '\t'

def EndsLine (text : List Char) : Prop :=
  text = [] ∨ text.getLast? = some '\n'

inductive IsLineEnd : List Char → Prop
  | newline : IsLineEnd ['\n']
  | carriageReturn : IsLineEnd ['\r', '\n']

variable {kept blanks text : List Char}

theorem isIndentation_iff (c : Char) : isIndentation c = true ↔ c = ' ' ∨ c = '\t' := by
  simp [isIndentation]

theorem endsBlank_iff : EndsBlank text ↔ ∃ c, text.getLast? = some c ∧ isIndentation c = true := by
  simp only [EndsBlank, isIndentation_iff, and_or_left, exists_or, exists_eq_right]

theorem endsBlank_iff_ne_nil (blank : IsBlanks blanks) : EndsBlank blanks ↔ blanks ≠ [] := by
  constructor
  · rintro ends rfl
    simp [EndsBlank] at ends
  · intro nonempty
    refine endsBlank_iff.mpr ⟨_, List.getLast?_eq_some_getLast nonempty, ?_⟩
    exact (isIndentation_iff _).mpr (blank _ (List.getLast_mem nonempty))

theorem EndsLine.not_endsBlank (ends : EndsLine text) : ¬EndsBlank text := by
  rcases ends with rfl | ends
  · simp [EndsBlank]
  · simp [EndsBlank, ends]

theorem EndsLine.append {front : List Char} (first : EndsLine front) (second : EndsLine text) :
    EndsLine (front ++ text) := by
  rcases second with rfl | ends
  · rwa [List.append_nil]
  · exact .inr (by rw [List.getLast?_append, ends]; rfl)

theorem EndsLine.of_append {front : List Char} (brace : front.getLast? = some closeBrace)
    (ends : EndsLine (front ++ text)) : text.getLast? = some '\n' := by
  rcases ends with empty | ends
  · obtain ⟨rfl, _⟩ := List.append_eq_nil_iff.mp empty
    simp at brace
  · rw [List.getLast?_append, brace] at ends
    cases last : text.getLast? with
    | none =>
        rw [last] at ends
        exact absurd ends (by decide)
    | some c =>
        rw [last] at ends
        exact ends

theorem IsLineEnd.endsLine (ends : IsLineEnd text) : EndsLine text := by
  cases ends <;> exact .inr rfl

theorem exists_blanks (text : List Char) :
    ∃ kept blanks, text = kept ++ blanks ∧ ¬EndsBlank kept ∧ IsBlanks blanks := by
  refine ⟨text.rdropWhile isIndentation, text.rtakeWhile isIndentation, ?_, ?_, ?_⟩
  · exact (List.rdropWhile_append_rtakeWhile ..).symm
  · intro ends
    obtain ⟨c, last, blank⟩ := endsBlank_iff.mp ends
    obtain ⟨nonempty, rfl⟩ := List.mem_getLast?_eq_getLast last
    exact List.rdropWhile_last_not _ _ nonempty blank
  · intro c member
    exact (isIndentation_iff c).mp (List.mem_rtakeWhile_imp member)

theorem dropEndWhile_append (solid : ¬EndsBlank kept) (blank : IsBlanks blanks) :
    Text.dropEndWhile isIndentation (kept ++ blanks) = kept := by
  change List.rdropWhile isIndentation (kept ++ blanks) = kept
  induction blanks using List.reverseRecOn with
  | nil =>
      rw [List.append_nil, List.rdropWhile_eq_self_iff]
      intro nonempty last
      exact solid (endsBlank_iff.mpr ⟨_, List.getLast?_eq_some_getLast nonempty, last⟩)
  | append_singleton blanks c ih =>
      rw [← List.append_assoc, List.rdropWhile_concat_pos _ _ _ ((isIndentation_iff c).mpr ?_)]
      · exact ih fun other member => blank other (List.mem_append_left _ member)
      · exact blank c (List.mem_append_right _ List.mem_cons_self)

theorem stripIndentation_append (atStart : Bool) (solid : ¬EndsBlank kept)
    (blank : IsBlanks blanks) :
    stripIndentation atStart (kept ++ blanks) =
      if kept = [] ∧ atStart = true ∨ kept.getLast? = some '\n' then kept else kept ++ blanks := by
  rw [stripIndentation, dropEndWhile_append solid blank]
  by_cases empty : kept = []
  · simp [empty]
  · simp [empty]

theorem stripIndentation_line {line : List Char} (atStart : Bool) (ends : line.getLast? = some '\n')
    (blank : IsBlanks blanks) : stripIndentation atStart (line ++ blanks) = line := by
  rw [stripIndentation_append atStart (EndsLine.not_endsBlank (.inr ends)) blank, if_pos (.inr ends)]

theorem stripIndentation_blanks (atStart : Bool) (blank : IsBlanks blanks) :
    stripIndentation atStart blanks = if atStart then [] else blanks := by
  have solid : ¬EndsBlank [] := EndsLine.not_endsBlank (.inl rfl)
  rw [← List.nil_append blanks, stripIndentation_append atStart solid blank]
  simp

theorem dropLineEnd_eq (text : List Char) :
    dropLineEnd text = text ∨ ∃ lineEnd, IsLineEnd lineEnd ∧ text = lineEnd ++ dropLineEnd text := by
  rw [dropLineEnd.eq_def]
  split
  next rest => exact .inr ⟨_, .carriageReturn, rfl⟩
  next rest => exact .inr ⟨_, .newline, rfl⟩
  next => exact .inl rfl

theorem dropLineEnd_append {line : List Char} (ends : line.getLast? = some '\n')
    (blanks : List Char) :
    dropLineEnd (line ++ blanks) = dropLineEnd line ++ blanks ∧
      (IsLineEnd line ∧ dropLineEnd line = [] ∨
        ¬IsLineEnd line ∧ (dropLineEnd line).getLast? = some '\n') := by
  cases line with
  | nil => simp at ends
  | cons c line =>
      cases line with
      | nil =>
          obtain rfl : c = '\n' := by simpa using ends
          exact ⟨rfl, .inl ⟨.newline, rfl⟩⟩
      | cons d rest =>
          by_cases newline : c = '\n'
          · subst newline
            exact ⟨rfl, .inr ⟨nofun, ends⟩⟩
          by_cases carriageReturn : c = '\r' ∧ d = '\n'
          · obtain ⟨rfl, rfl⟩ := carriageReturn
            cases rest with
            | nil => exact ⟨rfl, .inl ⟨.carriageReturn, rfl⟩⟩
            | cons e rest => exact ⟨rfl, .inr ⟨nofun, ends⟩⟩
          have same : ∀ more, dropLineEnd (c :: d :: more) = c :: d :: more := by
            intro more
            rcases dropLineEnd_eq (c :: d :: more) with same | ⟨lineEnd, _ | _, split⟩
            · exact same
            · exact absurd (List.cons.inj split).1 newline
            · obtain ⟨first, others⟩ := List.cons.inj split
              exact absurd ⟨first, (List.cons.inj others).1⟩ carriageReturn
          rw [same rest]
          refine ⟨same (rest ++ blanks), .inr ⟨?_, ends⟩⟩
          rintro ⟨⟩
          exact carriageReturn ⟨rfl, rfl⟩

end Blanks

namespace WhitespaceControl

variable (control : WhitespaceControl)

def spaced (previous next : Option TagKind) (text : List Char) : List Char :=
  let trimmed := control.trimmed (previous.any (·.isBlock)) text
  match next with
  | none => trimmed
  | some kind => control.stripped previous.isNone kind trimmed

def adjusted (control : WhitespaceControl) (previous : Option TagKind) : Scan → Scan
  | .text last => .text (control.spaced previous none last)
  | .unclosed before kind tail =>
      .unclosed (control.spaced previous (some kind) before) kind tail
  | .tag before kind whole rest =>
      .tag (control.spaced previous (some kind) before) kind whole
        (control.adjusted (some kind) rest)

theorem adjust_eq_source (previous : Option TagKind) (cut : Scan) :
    control.adjust previous.isNone (previous.any (·.isBlock)) cut =
      (control.adjusted previous cut).source := by
  induction cut generalizing previous with
  | text last => rfl
  | unclosed before kind tail => rfl
  | tag before kind whole rest ih =>
      rw [adjusted, Scan.source, ← ih (some kind)]
      rfl

theorem trimmed_eq (afterBlock : Bool) (text : List Char) :
    ∃ lineEnd, text = lineEnd ++ control.trimmed afterBlock text ∧
      (lineEnd = [] ∨ IsLineEnd lineEnd ∧ control.trimBlocks = true ∧ afterBlock = true) := by
  rw [trimmed]
  split
  next trims =>
    obtain ⟨trims, block⟩ := Bool.and_eq_true_iff.mp trims
    rcases dropLineEnd_eq text with same | ⟨lineEnd, ends, same⟩
    · exact ⟨[], same.symm, .inl rfl⟩
    · exact ⟨lineEnd, same, .inr ⟨ends, trims, block⟩⟩
  next => exact ⟨[], rfl, .inl rfl⟩

theorem stripped_eq (atStart : Bool) (kind : TagKind) (text : List Char) :
    control.stripped atStart kind text = text ∨
      ∃ kept blanks, text = kept ++ blanks ∧ IsBlanks blanks ∧
        EndsLine kept ∧ control.lstripBlocks = true ∧ kind.isBlock = true ∧
        control.stripped atStart kind text = kept := by
  rw [stripped]
  split
  next strips =>
    obtain ⟨strips, block⟩ := Bool.and_eq_true_iff.mp strips
    obtain ⟨kept, blanks, rfl, solid, blank⟩ := exists_blanks text
    rw [stripIndentation_append atStart solid blank]
    split
    next starts =>
      exact .inr ⟨kept, blanks, rfl, blank, starts.imp_left And.left, strips, block, rfl⟩
    next => exact .inl rfl
  next => exact .inl rfl

theorem spaced_clear {previous : Option TagKind} {kind : TagKind} {text : List Char}
    (clear : ClearOfTags text) : ClearOfTags (control.spaced previous (some kind) text) := by
  obtain ⟨lineEnd, split, _⟩ := control.trimmed_eq (previous.any (·.isBlock)) text
  have trimmedClear : ClearOfTags (control.trimmed (previous.any (·.isBlock)) text) := by
    rw [split, ClearOfTags, List.append_assoc] at clear
    exact openTag?_eq_none_of_within (by simpa using clear)
  rcases control.stripped_eq previous.isNone kind
      (control.trimmed (previous.any (·.isBlock)) text) with
    same | ⟨kept, blanks, cut, _, ends, _, _, same⟩
  · rw [spaced, same]
    exact trimmedClear
  · rw [spaced, same]
    rcases ends with rfl | ends
    · exact clearOfTags_nil
    · rw [cut, ClearOfTags, List.append_assoc] at trimmedClear
      have unopened : openTag? ([] ++ kept ++ (blanks ++ [openBrace])) = none := trimmedClear
      exact clearOfTags_lineEnd (openTag?_eq_none_of_within unopened) ends

theorem adjusted_sound {previous : Option TagKind} {cut : Scan} (sound : cut.Sound) :
    (control.adjusted previous cut).Sound := by
  induction cut generalizing previous with
  | text last =>
      obtain ⟨lineEnd, split, _⟩ := control.trimmed_eq (previous.any (·.isBlock)) last
      have unopened : openTag? last = none := sound
      rw [split, ← List.append_nil (lineEnd ++ _)] at unopened
      exact openTag?_eq_none_of_within unopened
  | unclosed before kind tail => exact ⟨control.spaced_clear sound.1, sound.2⟩
  | tag before kind whole rest ih =>
      obtain ⟨clear, closes, others⟩ := sound
      exact ⟨control.spaced_clear clear, closes, ih others⟩

theorem scan_apply (source : List Char) :
    scan (control.apply source) = control.adjusted none (scan source) := by
  have same : control.apply source = (control.adjusted none (scan source)).source :=
    control.adjust_eq_source none (scan source)
  rw [same]
  exact (control.adjusted_sound (scan_sound source).1).scan_source

theorem tags_adjusted (previous : Option TagKind) (cut : Scan) :
    (control.adjusted previous cut).tags = cut.tags := by
  induction cut generalizing previous with
  | text last => rfl
  | unclosed before kind tail => rfl
  | tag before kind whole rest ih => rw [adjusted, Scan.tags, Scan.tags, ih]

theorem tail?_adjusted (previous : Option TagKind) (cut : Scan) :
    (control.adjusted previous cut).tail? = cut.tail? := by
  induction cut generalizing previous with
  | text last => rfl
  | unclosed before kind tail => rfl
  | tag before kind whole rest ih => rw [adjusted, Scan.tail?, Scan.tail?, ih]

theorem gaps_adjusted (previous : Option TagKind) (front back : List Char) (cut : Scan) :
    List.Forall₂ (fun given left => left.previous = given.previous ∧ left.next = given.next ∧
        left.text = control.spaced given.previous given.next given.text)
      (cut.gapsFrom front previous) ((control.adjusted previous cut).gapsFrom back previous) := by
  induction cut generalizing previous front back with
  | text last => exact .cons ⟨rfl, rfl, rfl⟩ .nil
  | unclosed before kind tail => exact .cons ⟨rfl, rfl, rfl⟩ .nil
  | tag before kind whole rest ih => exact .cons ⟨rfl, rfl, rfl⟩ (ih _ _ _)

/-- At most a line end and a whole run of blanks are taken off a text, each only where its option is
set and a block tag stands on that side. -/
structure Pares (control : WhitespaceControl) (given left : Gap) : Prop where
  previous : left.previous = given.previous
  next : left.next = given.next
  text : ∃ lineEnd blanks, given.text = lineEnd ++ left.text ++ blanks ∧
    (lineEnd = [] ∨
      IsLineEnd lineEnd ∧ control.trimBlocks = true ∧ given.followsBlock = true) ∧
    (blanks = [] ∨ IsBlanks blanks ∧ ¬EndsBlank (lineEnd ++ left.text) ∧
      control.lstripBlocks = true ∧ given.precedesBlock = true)

theorem spaced_pares {given left : Gap} (previous : left.previous = given.previous)
    (next : left.next = given.next)
    (text : left.text = control.spaced given.previous given.next given.text) :
    control.Pares given left := by
  obtain ⟨lineEnd, split, taken⟩ := control.trimmed_eq given.followsBlock given.text
  refine ⟨previous, next, lineEnd, ?_⟩
  cases following : given.next with
  | none =>
      have same : left.text = control.trimmed given.followsBlock given.text := by
        rw [text, following]
        rfl
      exact ⟨[], by rw [same, List.append_nil]; exact split, taken, .inl rfl⟩
  | some kind =>
      have same : left.text = control.stripped given.previous.isNone kind
          (control.trimmed given.followsBlock given.text) := by
        rw [text, following]
        rfl
      rcases control.stripped_eq given.previous.isNone kind
          (control.trimmed given.followsBlock given.text) with
        unchanged | ⟨kept, blanks, cut, blank, ends, strips, block, stripped⟩
      · exact ⟨[], by rw [same, unchanged, List.append_nil]; exact split, taken, .inl rfl⟩
      · have front : EndsLine lineEnd := taken.elim .inl fun taken => taken.1.endsLine
        have solid : ¬EndsBlank (lineEnd ++ kept) := (front.append ends).not_endsBlank
        rw [same, stripped]
        refine ⟨blanks, ?_, taken, .inr ⟨blank, solid, strips, ?_⟩⟩
        · rw [List.append_assoc, ← cut]
          exact split
        · rw [Gap.precedesBlock, following]
          exact block

/-- Tags come through white-space control unchanged, and so does all text but the line end after a
block tag and the blanks before one. -/
theorem apply_keepsTags (source : List Char) :
    (scan source).source = source ∧ 4 * (scan source).tags.length ≤ source.length ∧
    (scan (control.apply source)).tags = (scan source).tags ∧
    (scan (control.apply source)).tail? = (scan source).tail? ∧
    List.Forall₂ control.Pares (scan source).gaps (scan (control.apply source)).gaps := by
  obtain ⟨sound, whole⟩ := scan_sound source
  have room := sound.tags_length
  rw [whole] at room
  refine ⟨whole, room, ?_, ?_, ?_⟩
  · rw [scan_apply, tags_adjusted]
  · rw [scan_apply, tail?_adjusted]
  · rw [scan_apply]
    refine (control.gaps_adjusted none [] [] (scan source)).imp fun given left spaced => ?_
    exact control.spaced_pares spaced.1 spaced.2.1 spaced.2.2

end WhitespaceControl

namespace Gap

/-- Only blanks stand between the start of a line of the source and the tag after the text. -/
def StartsLine (gap : Gap) : Prop :=
  ∃ line blanks, gap.front ++ gap.text = line ++ blanks ∧ IsBlanks blanks ∧ EndsLine line

def Placed (gap : Gap) : Prop :=
  gap.front = [] ∧ gap.previous = none ∨
    gap.front.getLast? = some closeBrace ∧ ∃ kind, gap.previous = some kind

theorem StartsLine.text_eq {gap : Gap} (starts : gap.StartsLine) (placed : gap.Placed) :
    ∃ line blanks, gap.text = line ++ blanks ∧ IsBlanks blanks ∧
      (line = [] ∧ gap.previous = none ∨ line.getLast? = some '\n') := by
  obtain ⟨line, blanks, split, blank, ends⟩ := starts
  rcases placed with ⟨front, previous⟩ | ⟨front, _⟩
  · rw [front, List.nil_append] at split
    exact ⟨line, blanks, split, blank, ends.imp_left fun empty => ⟨empty, previous⟩⟩
  · rcases List.append_eq_append_iff.mp split with ⟨after, rfl, textEq⟩ | ⟨after, frontEq, rfl⟩
    · exact ⟨after, blanks, textEq, blank, .inr (EndsLine.of_append front ends)⟩
    · rw [frontEq, List.getLast?_append] at front
      cases last : after.getLast? with
      | none =>
          rw [last, Option.none_or] at front
          have nothing := EndsLine.of_append front (by rwa [List.append_nil] : EndsLine (line ++ []))
          simp at nothing
      | some c =>
          obtain rfl : c = closeBrace := by simpa [last] using front
          have member : closeBrace ∈ after ++ gap.text :=
            List.mem_append_left _ (List.mem_of_getLast? last)
          exact absurd (blank _ member) (by decide)

end Gap

theorem Scan.Sound.gaps_placed {cut : Scan} (sound : cut.Sound) {front : List Char}
    {previous : Option TagKind} (placed : ∀ text next, Gap.Placed ⟨front, previous, text, next⟩) :
    ∀ gap ∈ cut.gapsFrom front previous, gap.Placed := by
  induction cut generalizing front previous with
  | text last => simpa [gapsFrom] using placed last none
  | unclosed before kind tail => simpa [gapsFrom] using placed before (some kind)
  | tag before kind whole rest ih =>
      obtain ⟨_, ⟨inner, rfl, closes⟩, others⟩ := sound
      rw [gapsFrom, List.forall_mem_cons]
      refine ⟨placed before (some kind), ih others fun text next => .inr ⟨?_, kind, rfl⟩⟩
      change (front ++ before ++ openBrace :: kind.openMark :: inner).getLast? = some closeBrace
      simp only [List.getLast?_append, List.getLast?_cons, closes.getLast?]
      rfl

def Gap.OnlyIndents (gap : Gap) : Prop :=
  ∃ lineEnd blanks, gap.text = lineEnd ++ blanks ∧ IsLineEnd lineEnd ∧ IsBlanks blanks ∧ blanks ≠ []

theorem Gap.onlyIndents_iff {gap : Gap} {line blanks : List Char} (split : gap.text = line ++ blanks)
    (ends : line.getLast? = some '\n') (blank : IsBlanks blanks) :
    gap.OnlyIndents ↔ IsLineEnd line ∧ blanks ≠ [] := by
  constructor
  · rintro ⟨lineEnd, others, same, isEnd, otherBlank, nonempty⟩
    have kept := dropEndWhile_append isEnd.endsLine.not_endsBlank otherBlank
    have lineSolid : ¬EndsBlank line := EndsLine.not_endsBlank (.inr ends)
    rw [← same, split, dropEndWhile_append lineSolid blank] at kept
    subst kept
    rw [split] at same
    exact ⟨isEnd, List.append_cancel_left same ▸ nonempty⟩
  · rintro ⟨isEnd, nonempty⟩
    exact ⟨line, blanks, split, isEnd, blank, nonempty⟩

namespace WhitespaceControl

variable (control : WhitespaceControl)

theorem spaced_block {gap : Gap} (strips : control.lstripBlocks = true)
    (block : gap.precedesBlock = true) :
    control.spaced gap.previous gap.next gap.text =
      stripIndentation gap.previous.isNone (control.trimmed gap.followsBlock gap.text) := by
  rw [Gap.precedesBlock] at block
  cases next : gap.next with
  | none => simp [next] at block
  | some kind =>
      have isBlock : kind.isBlock = true := by simpa [next] using block
      rw [spaced, stripped, strips, isBlock]
      rfl

theorem spaced_endsBlank {gap : Gap} (strips : control.lstripBlocks = true)
    (block : gap.precedesBlock = true) (placed : gap.Placed) (starts : gap.StartsLine) :
    EndsBlank (control.spaced gap.previous gap.next gap.text) ↔
      control.trimBlocks = true ∧ gap.followsBlock = true ∧ gap.OnlyIndents := by
  obtain ⟨line, blanks, split, blank, ends⟩ := starts.text_eq placed
  have solid : ¬EndsBlank line := EndsLine.not_endsBlank (ends.imp_left And.left)
  rw [control.spaced_block strips block, trimmed]
  by_cases trims : control.trimBlocks = true ∧ gap.followsBlock = true
  · have newline : line.getLast? = some '\n' := by
      refine ends.resolve_left fun atStart => ?_
      simp [Gap.followsBlock, atStart.2] at trims
    have started : gap.previous.isNone = false := by
      cases previous : gap.previous with
      | none => simp [Gap.followsBlock, previous] at trims
      | some kind => rfl
    obtain ⟨cut, isEnd⟩ := dropLineEnd_append newline blanks
    rw [Gap.onlyIndents_iff split newline blank, started, trims.1, trims.2, split]
    simp only [Bool.and_self, if_true, true_and, cut]
    rcases isEnd with ⟨isEnd, nothing⟩ | ⟨notEnd, longer⟩
    · have unstripped : stripIndentation false blanks = blanks := stripIndentation_blanks false blank
      rw [nothing, List.nil_append, unstripped, endsBlank_iff_ne_nil blank]
      exact (and_iff_right isEnd).symm
    · rw [stripIndentation_line false longer blank]
      exact iff_of_false (EndsLine.not_endsBlank (.inr longer)) fun indents => notEnd indents.1
  · have untrimmed : ¬(control.trimBlocks && gap.followsBlock) = true := by simpa using trims
    have stripped : stripIndentation gap.previous.isNone gap.text = line := by
      rw [split]
      rcases ends with ⟨rfl, atStart⟩ | newline
      · rw [atStart]
        exact stripIndentation_blanks true blank
      · exact stripIndentation_line _ newline blank
    rw [if_neg untrimmed, stripped]
    exact iff_of_false solid fun kept => trims ⟨kept.1, kept.2.1⟩

/-- Where indentation is stripped before block tags, one that starts a line keeps it exactly when the
line end before it is the one that was dropped after another block tag. -/
theorem apply_indentation (strips : control.lstripBlocks = true) (source : List Char) :
    List.Forall₂ (fun given left => given.precedesBlock = true → given.StartsLine →
        (EndsBlank left.text ↔
          control.trimBlocks = true ∧ given.followsBlock = true ∧ given.OnlyIndents))
      (scan source).gaps (scan (control.apply source)).gaps := by
  have placed : ∀ gap ∈ (scan source).gaps, gap.Placed :=
    (scan_sound source).1.gaps_placed fun _ _ => .inl ⟨rfl, rfl⟩
  rw [scan_apply]
  have spaced := (List.forall₂_and_left _ _).mpr
    ⟨placed, control.gaps_adjusted none [] [] (scan source)⟩
  refine spaced.imp fun given left facts block starts => ?_
  obtain ⟨placed, _, _, text⟩ := facts
  rw [text]
  exact control.spaced_endsBlank strips block placed starts

def nestedBlocks : List Char :=
  "\x7b% if x %\x7d\n  \x7b% endif %\x7d".toList

def nestedGap : Gap :=
  ⟨"\x7b% if x %\x7d".toList, some .statement, "\n  ".toList, some .statement⟩

theorem nestedBlocks_gaps : (scan nestedBlocks).gaps =
    [⟨[], none, [], some .statement⟩, nestedGap, ⟨nestedBlocks, some .statement, [], none⟩] := by
  decide +kernel

theorem nestedGap_startsLine : nestedGap.StartsLine :=
  ⟨"\x7b% if x %\x7d\n".toList, [' ', ' '], rfl, by simp [IsBlanks], .inr rfl⟩

theorem nestedBlocks_indentation :
    ∃ left ∈ (scan (apply ⟨true, true⟩ nestedBlocks)).gaps, EndsBlank left.text := by
  have gaps := apply_indentation ⟨true, true⟩ rfl nestedBlocks
  rw [nestedBlocks_gaps] at gaps
  obtain ⟨first, others, _, rest, same⟩ := List.forall₂_cons_left_iff.mp gaps
  obtain ⟨second, _, kept, _, rfl⟩ := List.forall₂_cons_left_iff.mp rest
  have indents : nestedGap.OnlyIndents :=
    ⟨['\n'], [' ', ' '], rfl, .newline, by simp [IsBlanks], by simp⟩
  rw [same]
  refine ⟨second, by simp, ?_⟩
  exact (kept rfl nestedGap_startsLine).mpr ⟨rfl, rfl, indents⟩

theorem indentation_kept :
    ¬∀ (control : WhitespaceControl) (source : List Char), control.lstripBlocks = true →
      List.Forall₂ (fun given left => given.precedesBlock = true → given.StartsLine →
          ¬EndsBlank left.text)
        (scan source).gaps (scan (control.apply source)).gaps := by
  intro strips
  have gaps := strips ⟨true, true⟩ nestedBlocks rfl
  have left : (scan (apply ⟨true, true⟩ nestedBlocks)).gaps = [
      ⟨[], none, [], some .statement⟩,
      ⟨"\x7b% if x %\x7d".toList, some .statement, [' ', ' '], some .statement⟩,
      ⟨"\x7b% if x %\x7d  \x7b% endif %\x7d".toList, some .statement, [], none⟩] := by
    decide +kernel
  rw [nestedBlocks_gaps, left, List.forall₂_cons, List.forall₂_cons] at gaps
  exact gaps.2.1 rfl nestedGap_startsLine (.inl rfl)

end WhitespaceControl
end BindingPress.Template
