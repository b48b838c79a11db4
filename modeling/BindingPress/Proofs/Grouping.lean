import BindingPress.Proofs.Casing
import Mathlib.Data.List.Forall2
import Mathlib.Data.List.Infix
import Mathlib.Data.List.TakeWhile

/-!
How the pieces of a run become words and initialisms. As many pieces as possible are taken together
where they spell an initialism, a piece that consists of initialisms is cut into them, and any other
piece is a word.
-/

namespace BindingPress.Naming

theorem casePieces_flatten (run : List Char) : (casePieces run).flatten = run := by
  fun_induction casePieces run with
  | case1 => rfl
  | case2 c => rfl
  | case3 previous current rest pieces starts ih => simp [pieces, ih]
  | case4 previous current rest pieces starts empty ih =>
      have joined : pieces.flatten = current :: rest := ih
      simp [empty] at joined
  | case5 previous current rest pieces starts piece others split ih =>
      have joined : pieces.flatten = current :: rest := ih
      rw [split, List.flatten_cons] at joined
      rw [List.flatten_cons, List.cons_append, joined]

theorem ne_nil_of_mem_casePieces {run piece : List Char} (member : piece ∈ casePieces run) :
    piece ≠ [] := by
  fun_induction casePieces run with
  | case1 => simp at member
  | case2 c => simp_all
  | case3 previous current rest pieces starts ih =>
      rcases List.mem_cons.mp member with rfl | later
      · simp
      · exact ih later
  | case4 previous current rest pieces starts empty ih => simp_all
  | case5 previous current rest pieces starts first others split ih =>
      rcases List.mem_cons.mp member with rfl | later
      · simp
      · exact ih (show piece ∈ pieces by simp [split, later])

theorem casePieces_ne_nil {run : List Char} (nonempty : run ≠ []) : casePieces run ≠ [] := by
  intro empty
  have joined := casePieces_flatten run
  rw [empty] at joined
  exact nonempty joined.symm

section

variable {initialisms : Initialisms}

theorem Initialisms.haveStart_of_contains {start rest : List Char}
    (held : initialisms.contains (start ++ rest) = true) : initialisms.haveStart start = true := by
  have member := List.contains_iff_mem.mp held
  refine List.any_eq_true.mpr ⟨_, member, ?_⟩
  rw [String.toList_ofList, List.isPrefixOf_iff_prefix, Text.upper_append]
  exact List.prefix_append _ _

theorem Initialisms.not_contains_append {start : List Char}
    (unstarted : initialisms.haveStart start = false) (rest : List Char) :
    initialisms.contains (start ++ rest) = false := by
  rw [Bool.eq_false_iff]
  intro held
  rw [haveStart_of_contains held] at unstarted
  contradiction

theorem Initialisms.haveStart_of_append {start rest : List Char}
    (started : initialisms.haveStart (start ++ rest) = true) :
    initialisms.haveStart start = true := by
  obtain ⟨word, member, begins⟩ := List.any_eq_true.mp started
  refine List.any_eq_true.mpr ⟨word, member, ?_⟩
  rw [List.isPrefixOf_iff_prefix] at begins ⊢
  rw [Text.upper_append] at begins
  exact (List.prefix_append _ _).trans begins

theorem Initialisms.not_haveStart_append {start : List Char}
    (unstarted : initialisms.haveStart start = false) (rest : List Char) :
    initialisms.haveStart (start ++ rest) = false := by
  rw [Bool.eq_false_iff] at unstarted ⊢
  exact fun started => unstarted (haveStart_of_append started)

theorem longestInitialism_of_unstarted {joined : List Char}
    (unstarted : initialisms.haveStart joined = false) (pieces : List (List Char)) :
    longestInitialism initialisms joined pieces = none := by
  cases pieces with
  | nil => rfl
  | cons piece rest =>
      have longer := Initialisms.not_haveStart_append unstarted piece
      rw [longestInitialism, if_neg (Bool.eq_false_iff.mp longer)]

theorem longestInitialism_cons (joined piece : List Char) (rest : List (List Char)) :
    longestInitialism initialisms joined (piece :: rest) =
      (longestInitialism initialisms (joined ++ piece) rest).or
        (if initialisms.contains (joined ++ piece) then some (joined ++ piece, rest)
          else none) := by
  by_cases started : initialisms.haveStart (joined ++ piece) = true
  · rw [longestInitialism, if_pos started]
    cases longestInitialism initialisms (joined ++ piece) rest <;> rfl
  · have unstarted := Bool.eq_false_iff.mpr started
    have missed : initialisms.contains (joined ++ piece) = false := by
      simpa using Initialisms.not_contains_append unstarted []
    rw [longestInitialism, if_neg started, longestInitialism_of_unstarted unstarted, missed]
    rfl

/-- After `joined`, no number of leading pieces completes an initialism. -/
def NoMatch (initialisms : Initialisms) (joined : List Char) (pieces : List (List Char)) : Prop :=
  ∀ group, group ≠ [] → group <+: pieces → initialisms.contains (joined ++ group.flatten) = false

theorem NoMatch.not_contains {joined : List Char} {pieces : List (List Char)}
    (unmatched : NoMatch initialisms joined pieces) (nonempty : pieces ≠ []) :
    initialisms.contains (joined ++ pieces.flatten) = false :=
  unmatched pieces nonempty List.prefix_rfl

theorem noMatch_cons {joined piece : List Char} {rest : List (List Char)} :
    NoMatch initialisms joined (piece :: rest) ↔
      initialisms.contains (joined ++ piece) = false ∧
        NoMatch initialisms (joined ++ piece) rest := by
  constructor
  · intro unmatched
    refine ⟨?_, ?_⟩
    · simpa using unmatched [piece] (by simp) (by simp)
    · intro group _ leading
      simpa using unmatched (piece :: group) (by simp) (by simpa using leading)
  · rintro ⟨alone, longer⟩ group nonempty leading
    obtain ⟨first, group, rfl⟩ := List.exists_cons_of_ne_nil nonempty
    obtain ⟨rfl, following⟩ := List.cons_prefix_cons.mp leading
    by_cases single : group = []
    · simpa [single] using alone
    · simpa using longer group single following

theorem noMatch_of_longestInitialism {joined : List Char} {pieces : List (List Char)}
    (unmatched : longestInitialism initialisms joined pieces = none) :
    NoMatch initialisms joined pieces := by
  induction pieces generalizing joined with
  | nil =>
      intro group nonempty leading
      exact absurd (List.prefix_nil.mp leading) nonempty
  | cons piece rest ih =>
      rw [longestInitialism_cons, Option.or_eq_none_iff] at unmatched
      obtain ⟨deeper, alone⟩ := unmatched
      exact noMatch_cons.mpr ⟨by simpa using alone, ih deeper⟩

theorem longestInitialism_eq_some {joined found : List Char} {pieces rest : List (List Char)}
    (matched : longestInitialism initialisms joined pieces = some (found, rest)) :
    ∃ group, group ≠ [] ∧ pieces = group ++ rest ∧ found = joined ++ group.flatten ∧
      initialisms.contains found = true ∧ NoMatch initialisms found rest := by
  induction pieces generalizing joined with
  | nil => simp [longestInitialism] at matched
  | cons piece pieces ih =>
      rw [longestInitialism_cons, Option.or_eq_some_iff] at matched
      rcases matched with deeper | ⟨deeper, here⟩
      · obtain ⟨group, _, rfl, rfl, held, maximal⟩ := ih deeper
        exact ⟨piece :: group, by simp, by simp, by simp, held, maximal⟩
      · obtain ⟨held, same⟩ := Option.ite_none_right_eq_some.mp here
        cases same
        exact ⟨[piece], by simp, rfl, by simp, held, noMatch_of_longestInitialism deeper⟩

/-- The parts make up the text, and each of them is an initialism. -/
structure IsCover (initialisms : Initialisms) (parts : Cut) (text : List Char) : Prop where
  joined : parts.flatten = text
  held : ∀ part ∈ parts, part ≠ [] ∧ initialisms.contains part = true

def IsCovered (initialisms : Initialisms) (text : List Char) : Prop :=
  ∃ parts, IsCover initialisms parts text

theorem IsCover.cons {first rest : List Char} {parts : Cut} (nonempty : first ≠ [])
    (held : initialisms.contains first = true) (cover : IsCover initialisms parts rest) :
    IsCover initialisms (first :: parts) (first ++ rest) where
  joined := by rw [List.flatten_cons, cover.joined]
  held := List.forall_mem_cons.mpr ⟨⟨nonempty, held⟩, cover.held⟩

theorem IsCover.chars {parts : Cut} {text : List Char} (cover : IsCover initialisms parts text) :
    (parts.map Segment.initialism).flatMap Segment.chars = text := by
  rw [← cover.joined]
  simp [List.flatMap_map, Segment.chars, List.flatMap_id']

theorem IsCovered.of_contains {text : List Char} (nonempty : text ≠ [])
    (held : initialisms.contains text = true) : IsCovered initialisms text := by
  refine ⟨[text], ?_, ?_⟩
  · simp
  · simpa using ⟨nonempty, held⟩

theorem IsCover.exists_first {parts : Cut} {text : List Char}
    (cover : IsCover initialisms parts text) (nonempty : text ≠ []) :
    ∃ first after others, parts = first :: others ∧ first ≠ [] ∧ first ++ after = text ∧
      initialisms.contains first = true ∧ IsCover initialisms others after := by
  obtain ⟨rfl, held⟩ := cover
  cases parts with
  | nil => exact absurd rfl nonempty
  | cons first others =>
      obtain ⟨⟨filled, here⟩, later⟩ := List.forall_mem_cons.mp held
      exact ⟨first, others.flatten, others, rfl, filled, rfl, here, rfl, later⟩

structure CutsWhole (initialisms : Initialisms) (cut : Option Cut) (text : List Char) : Prop where
  covers : ∀ parts, cut = some parts → IsCover initialisms parts text
  fails : cut = none → ¬IsCovered initialisms text

theorem tails_eq_cons (text : List Char) : text.tails = text :: text.tails.tail := by
  cases text <;> rfl

theorem longestFirst_of_unstarted {taken : List Char}
    (unstarted : initialisms.haveStart taken = false) (text : List Char)
    (cuts : List (Option Cut)) : longestFirst initialisms taken text cuts = none := by
  cases text with
  | nil => rfl
  | cons c rest =>
      cases cuts with
      | nil => rfl
      | cons cut cuts =>
          have longer := Initialisms.not_haveStart_append unstarted [c]
          rw [longestFirst, if_neg (Bool.eq_false_iff.mp longer)]

theorem longestFirst_cons (taken : List Char) (c : Char) (rest : List Char) (cut : Option Cut)
    (cuts : List (Option Cut)) :
    longestFirst initialisms taken (c :: rest) (cut :: cuts) =
      (longestFirst initialisms (taken ++ [c]) rest cuts).or
        (if initialisms.contains (taken ++ [c]) then cut.map ((taken ++ [c]) :: ·) else none) := by
  by_cases started : initialisms.haveStart (taken ++ [c]) = true
  · rw [longestFirst, if_pos started]
    cases longestFirst initialisms (taken ++ [c]) rest cuts <;> rfl
  · have unstarted := Bool.eq_false_iff.mpr started
    have missed : initialisms.contains (taken ++ [c]) = false := by
      simpa using Initialisms.not_contains_append unstarted []
    rw [longestFirst, if_neg started, longestFirst_of_unstarted unstarted, missed]
    rfl

theorem longestFirst_covers {taken text : List Char} {cuts : List (Option Cut)} {parts : Cut}
    (whole : List.Forall₂ (CutsWhole initialisms) cuts text.tails.tail)
    (found : longestFirst initialisms taken text cuts = some parts) :
    IsCover initialisms parts (taken ++ text) := by
  induction text generalizing taken cuts with
  | nil => simp [longestFirst] at found
  | cons c rest ih =>
      rw [List.tails_cons, List.tail_cons, tails_eq_cons] at whole
      obtain ⟨cut, cuts, here, later, rfl⟩ := List.forall₂_cons_right_iff.mp whole
      rw [longestFirst_cons, Option.or_eq_some_iff] at found
      rw [List.append_cons]
      rcases found with deeper | ⟨_, single⟩
      · exact ih later deeper
      · obtain ⟨held, followed⟩ := Option.ite_none_right_eq_some.mp single
        obtain ⟨following, cutAfter, rfl⟩ := Option.map_eq_some_iff.mp followed
        exact (here.covers following cutAfter).cons (by simp) held

theorem not_isCovered_of_longestFirst {taken text first after : List Char}
    {cuts : List (Option Cut)}
    (whole : List.Forall₂ (CutsWhole initialisms) cuts text.tails.tail)
    (missing : longestFirst initialisms taken text cuts = none) (nonempty : first ≠ [])
    (split : first ++ after = text) (held : initialisms.contains (taken ++ first) = true) :
    ¬IsCovered initialisms after := by
  induction text generalizing taken first cuts with
  | nil => simp_all
  | cons c rest ih =>
      rw [List.tails_cons, List.tail_cons, tails_eq_cons] at whole
      obtain ⟨cut, cuts, here, later, rfl⟩ := List.forall₂_cons_right_iff.mp whole
      obtain ⟨d, first, rfl⟩ := List.exists_cons_of_ne_nil nonempty
      rw [List.cons_append] at split
      obtain ⟨rfl, rfl⟩ := List.cons.inj split
      rw [List.append_cons] at held
      rw [longestFirst_cons, Option.or_eq_none_iff] at missing
      obtain ⟨deeper, single⟩ := missing
      by_cases ended : first = []
      · subst ended
        rw [List.append_nil] at held
        have failed : cut = none := by simpa [held] using single
        exact here.fails failed
      · exact ih later deeper ended rfl held

theorem initialismCuts_cutWhole (initialisms : Initialisms) (text : List Char) :
    List.Forall₂ (CutsWhole initialisms) (initialismCuts initialisms text) text.tails := by
  induction text with
  | nil =>
      refine .cons ⟨?_, ?_⟩ .nil
      · rintro parts found
        cases found
        exact ⟨rfl, by simp⟩
      · intro missing
        contradiction
  | cons c rest ih =>
      rw [initialismCuts, List.tails_cons]
      refine .cons ⟨?_, ?_⟩ ih
      · intro parts found
        exact longestFirst_covers ih found
      · rintro missing ⟨parts, cover⟩
        obtain ⟨first, after, others, _, nonempty, split, held, followed⟩ :=
          cover.exists_first (by simp)
        exact not_isCovered_of_longestFirst ih missing nonempty split held ⟨others, followed⟩

theorem splitInitialisms_cutsWhole (initialisms : Initialisms) (piece : List Char) :
    CutsWhole initialisms (splitInitialisms initialisms piece) piece := by
  have whole := initialismCuts_cutWhole initialisms piece
  rw [tails_eq_cons] at whole
  obtain ⟨cut, cuts, here, _, found⟩ := List.forall₂_cons_right_iff.mp whole
  rw [splitInitialisms, found]
  exact here

theorem isSome_splitInitialisms {piece : List Char} :
    (splitInitialisms initialisms piece).isSome = true ↔ IsCovered initialisms piece := by
  have whole := splitInitialisms_cutsWhole initialisms piece
  cases cut : splitInitialisms initialisms piece with
  | none => simpa using whole.fails cut
  | some parts => simpa using ⟨parts, whole.covers parts cut⟩

instance (piece : List Char) : Decidable (IsCovered initialisms piece) :=
  decidable_of_iff _ isSome_splitInitialisms

end

/-- What the pieces of a run may become. -/
inductive Grouping (initialisms : Initialisms) : List (List Char) → List Segment → Prop
  | done : Grouping initialisms [] []
  /-- One or more pieces spell an initialism, and do not with any more pieces. -/
  | matched {group rest : List (List Char)} {segments : List Segment} :
      group ≠ [] → initialisms.contains group.flatten = true →
      NoMatch initialisms group.flatten rest → Grouping initialisms rest segments →
      Grouping initialisms (group ++ rest) (.initialism group.flatten :: segments)
  /-- No pieces from this one on spell an initialism, but this one consists of them. -/
  | split {piece : List Char} {rest : List (List Char)} {parts : Cut} {segments : List Segment} :
      NoMatch initialisms [] (piece :: rest) → IsCover initialisms parts piece →
      Grouping initialisms rest segments →
      Grouping initialisms (piece :: rest) (parts.map .initialism ++ segments)
  | word {piece : List Char} {rest : List (List Char)} {segments : List Segment} :
      NoMatch initialisms [] (piece :: rest) → ¬IsCovered initialisms piece →
      Grouping initialisms rest segments →
      Grouping initialisms (piece :: rest) (.word piece :: segments)

theorem pieceSegments_grouping (initialisms : Initialisms) (pieces : List (List Char)) :
    Grouping initialisms pieces (pieceSegments initialisms pieces) := by
  fun_induction pieceSegments initialisms pieces with
  | case1 => exact .done
  | case2 piece rest found following matched ih =>
      obtain ⟨group, nonempty, split, rfl, held, maximal⟩ := longestInitialism_eq_some matched
      rw [split]
      exact .matched nonempty held maximal ih
  | case3 piece rest unmatched parts split ih =>
      have cover := (splitInitialisms_cutsWhole initialisms piece).covers parts split
      exact .split (noMatch_of_longestInitialism unmatched) cover ih
  | case4 piece rest unmatched unsplit ih =>
      have uncovered := (splitInitialisms_cutsWhole initialisms piece).fails unsplit
      exact .word (noMatch_of_longestInitialism unmatched) uncovered ih

/-- No initialism is found in the pieces, neither in several of them together nor within one. -/
structure AreFree (initialisms : Initialisms) (pieces : List (List Char)) : Prop where
  unmatched : ∀ group, group ≠ [] → group <:+: pieces →
    initialisms.contains group.flatten = false
  uncovered : ∀ piece ∈ pieces, ¬IsCovered initialisms piece

theorem areFree_iff {initialisms : Initialisms} {pieces : List (List Char)} :
    AreFree initialisms pieces ↔
      (∀ tail ∈ pieces.tails, ∀ group ∈ tail.inits, group ≠ [] →
        initialisms.contains group.flatten = false) ∧
      ∀ piece ∈ pieces, ¬IsCovered initialisms piece := by
  constructor
  · intro free
    refine ⟨?_, free.uncovered⟩
    intro tail ending group leading nonempty
    rw [List.mem_tails] at ending
    rw [List.mem_inits] at leading
    exact free.unmatched group nonempty (leading.isInfix.trans ending.isInfix)
  · rintro ⟨unmatched, uncovered⟩
    refine ⟨?_, uncovered⟩
    intro group nonempty within
    obtain ⟨tail, leading, ending⟩ := List.infix_iff_prefix_suffix.mp within
    exact unmatched tail ((List.mem_tails _ _).mpr ending) group
      ((List.mem_inits _ _).mpr leading) nonempty

instance (initialisms : Initialisms) (pieces : List (List Char)) :
    Decidable (AreFree initialisms pieces) :=
  decidable_of_iff _ areFree_iff.symm

theorem AreFree.of_infix {initialisms : Initialisms} {pieces inner : List (List Char)}
    (free : AreFree initialisms pieces) (within : inner <:+: pieces) :
    AreFree initialisms inner where
  unmatched group nonempty found := free.unmatched group nonempty (found.trans within)
  uncovered piece member := free.uncovered piece (within.subset member)

theorem areFree_singleton {initialisms : Initialisms} {piece : List Char} (nonempty : piece ≠ [])
    (uncovered : ¬IsCovered initialisms piece) : AreFree initialisms [piece] where
  unmatched group filled within := by
    have single : group = [piece] := by
      rcases List.sublist_singleton.mp within.sublist with empty | single
      · exact absurd empty filled
      · exact single
    rw [single, List.flatten_singleton, Bool.eq_false_iff]
    exact fun held => uncovered (.of_contains nonempty held)
  uncovered := by simpa using uncovered

namespace Grouping

variable {initialisms : Initialisms} {pieces : List (List Char)} {segments : List Segment}

theorem chars (grouping : Grouping initialisms pieces segments) :
    segments.flatMap Segment.chars = pieces.flatten := by
  induction grouping with
  | done => rfl
  | matched _ _ _ _ ih => rw [List.flatMap_cons, ih, List.flatten_append, Segment.chars]
  | split _ cover _ ih => rw [List.flatMap_append, ih, List.flatten_cons, cover.chars]
  | word _ _ _ ih => rw [List.flatMap_cons, ih, List.flatten_cons, Segment.chars]

theorem eq_nil (grouping : Grouping initialisms pieces segments) (empty : pieces = []) :
    segments = [] := by
  cases grouping with
  | done => rfl
  | matched nonempty _ _ _ => simp_all
  | split _ _ _ => contradiction
  | word _ _ _ => contradiction

theorem eq_initialism (grouping : Grouping initialisms pieces segments) (nonempty : pieces ≠ [])
    (held : initialisms.contains pieces.flatten = true) :
    segments = [.initialism pieces.flatten] := by
  cases grouping with
  | done => contradiction
  | @matched group rest segments _ _ maximal following =>
      by_cases ended : rest = []
      · simp [ended, following.eq_nil ended]
      · have longer := maximal.not_contains ended
        rw [← List.flatten_append, held] at longer
        contradiction
  | split unmatched _ _ =>
      have whole := unmatched.not_contains nonempty
      rw [List.nil_append, held] at whole
      contradiction
  | word unmatched _ _ =>
      have whole := unmatched.not_contains nonempty
      rw [List.nil_append, held] at whole
      contradiction

theorem eq_words (grouping : Grouping initialisms pieces segments)
    (free : AreFree initialisms pieces) : segments = pieces.map .word := by
  induction grouping with
  | done => rfl
  | @matched group rest _ nonempty held _ _ _ =>
      have missed := free.unmatched group nonempty (List.prefix_append group rest).isInfix
      rw [held] at missed
      contradiction
  | split _ cover _ _ => exact absurd ⟨_, cover⟩ (free.uncovered _ (by simp))
  | @word piece rest _ _ _ _ ih =>
      rw [List.map_cons, ih (free.of_infix (List.suffix_cons piece rest).isInfix)]

end Grouping

theorem runSegments_eq_initialism {initialisms : Initialisms} {run : List Char}
    (nonempty : run ≠ []) (held : initialisms.contains run = true) :
    runSegments initialisms run = [.initialism run] := by
  have whole := (pieceSegments_grouping initialisms (casePieces run)).eq_initialism
    (casePieces_ne_nil nonempty)
  rw [casePieces_flatten] at whole
  exact whole held

theorem segments_of_alphanumeric {initialisms : Initialisms} {name : List Char}
    (alphanumeric : ∀ c ∈ name, isAlphanumeric c = true) :
    segments initialisms name = runSegments initialisms name := by
  cases name with
  | nil => rw [segments, runSegments, casePieces, pieceSegments]
  | cons c rest =>
      obtain ⟨first, later⟩ := List.forall_mem_cons.mp alphanumeric
      rw [segments, if_pos first, List.takeWhile_eq_self_iff.mpr later,
        List.dropWhile_eq_nil_iff.mpr later, segments, List.append_nil]

def StaysWhole (segments : List Segment) (before text : List Char) : Prop :=
  ∃ earlier segment later left right, segments = earlier ++ segment :: later ∧
    before = earlier.flatMap Segment.chars ++ left ∧ segment.chars = left ++ text ++ right

theorem StaysWhole.append {segments : List Segment} {before text : List Char}
    (whole : StaysWhole segments before text) (first : List Segment) :
    StaysWhole (first ++ segments) (first.flatMap Segment.chars ++ before) text := by
  obtain ⟨earlier, segment, later, left, right, rfl, rfl, held⟩ := whole
  exact ⟨first ++ earlier, segment, later, left, right, by simp, by simp, held⟩

theorem Grouping.staysWhole {initialisms : Initialisms} {pieces before after : List (List Char)}
    {piece : List Char} {segments : List Segment}
    (grouping : Grouping initialisms pieces segments) (placed : pieces = before ++ piece :: after)
    (uncovered : ¬IsCovered initialisms piece) :
    StaysWhole segments before.flatten piece := by
  induction grouping generalizing before with
  | done => simp at placed
  | @matched group rest segments _ _ _ _ ih =>
      rcases List.append_eq_append_iff.mp placed with ⟨between, rfl, later⟩ | ⟨inside, rfl, later⟩
      · simpa [Segment.chars] using (ih later).append [.initialism group.flatten]
      · cases inside with
        | nil =>
            have whole : StaysWhole segments [].flatten piece := ih later.symm
            simpa [Segment.chars] using whole.append [.initialism before.flatten]
        | cons first inside =>
            obtain ⟨rfl, -⟩ := List.cons.inj later
            exact ⟨[], _, segments, before.flatten, inside.flatten, rfl, by simp,
              by simp [Segment.chars]⟩
  | @split first rest parts segments _ cover _ ih =>
      cases before with
      | nil =>
          obtain ⟨rfl, -⟩ := List.cons.inj placed
          exact absurd ⟨parts, cover⟩ uncovered
      | cons _ before =>
          obtain ⟨rfl, later⟩ := List.cons.inj placed
          have whole := (ih later).append (parts.map .initialism)
          rwa [cover.chars] at whole
  | @word first rest segments _ _ _ ih =>
      cases before with
      | nil =>
          obtain ⟨rfl, -⟩ := List.cons.inj placed
          exact ⟨[], _, segments, [], [], rfl, rfl, by simp [Segment.chars]⟩
      | cons _ before =>
          obtain ⟨rfl, later⟩ := List.cons.inj placed
          simpa [Segment.chars] using (ih later).append [.word first]

/-- How a run is read: its pieces are grouped as above, a run that spells an initialism is that
initialism alone, and a piece that does not consist of initialisms is never cut. -/
theorem runSegments_grouped (initialisms : Initialisms) (run : List Char)
    (alphanumeric : ∀ c ∈ run, isAlphanumeric c = true) :
    (Identifier.parse (String.ofList run) initialisms).tokens =
        (runSegments initialisms run).map Segment.token ∧
      Grouping initialisms (casePieces run) (runSegments initialisms run) ∧
      (run ≠ [] → initialisms.contains run = true →
        (Identifier.parse (String.ofList run) initialisms).tokens =
          [.initialism (String.ofList (Text.upper run))]) ∧
      ∀ before piece after, casePieces run = before ++ piece :: after →
        ¬IsCovered initialisms piece →
          StaysWhole (runSegments initialisms run) before.flatten piece := by
  have read : (Identifier.parse (String.ofList run) initialisms).tokens =
      (runSegments initialisms run).map Segment.token := by
    rw [Identifier.parse, String.toList_ofList, tokens, segments_of_alphanumeric alphanumeric]
  have grouping := pieceSegments_grouping initialisms (casePieces run)
  refine ⟨read, grouping, ?_, ?_⟩
  · intro nonempty held
    rw [read, runSegments_eq_initialism nonempty held, List.map_singleton, Segment.token]
  · intro before piece after placed uncovered
    exact grouping.staysWhole placed uncovered

def sensorInitialisms : Initialisms :=
  .ofList ["gps", "id", "gpsid"]

theorem sensorRun_grouped :
    (∀ c ∈ "GpsIdIDGPSFix".toList, isAlphanumeric c = true) ∧
      ¬IsCovered sensorInitialisms "Fix".toList ∧
      (Identifier.parse "GpsIdIDGPSFix" sensorInitialisms).tokens =
        [.initialism "GPSID", .initialism "ID", .initialism "GPS", .word "fix"] ∧
      Grouping sensorInitialisms ["Gps".toList, "Id".toList, "IDGPS".toList, "Fix".toList]
        [.initialism "GpsId".toList, .initialism "ID".toList, .initialism "GPS".toList,
          .word "Fix".toList] ∧
      StaysWhole (runSegments sensorInitialisms "GpsIdIDGPSFix".toList) "GpsIdIDGPS".toList
        "Fix".toList ∧
      casePieces "gPSid".toList = ["g".toList, "P".toList, "Sid".toList] ∧
      (Identifier.parse "gPSid" sensorInitialisms).tokens = [.initialism "GPSID"] := by
  have letters : ∀ c ∈ "GpsIdIDGPSFix".toList, isAlphanumeric c = true := by
    rw [← List.all_eq_true]
    simp only [String.reduceToList]
    decide +kernel
  have cut : casePieces "GpsIdIDGPSFix".toList =
      ["Gps".toList, "Id".toList, "IDGPS".toList, "Fix".toList] := by
    simp only [String.reduceToList]
    decide +kernel
  have grouped : runSegments sensorInitialisms "GpsIdIDGPSFix".toList =
      [.initialism "GpsId".toList, .initialism "ID".toList, .initialism "GPS".toList,
        .word "Fix".toList] := by
    simp only [String.reduceToList]
    decide +kernel
  have uncovered : ¬IsCovered sensorInitialisms "Fix".toList := by decide +kernel
  obtain ⟨read, grouping, _, whole⟩ := runSegments_grouped sensorInitialisms _ letters
  rw [grouped, String.ofList_toList] at read
  rw [cut, grouped] at grouping
  obtain ⟨_, _, alone, _⟩ := runSegments_grouped sensorInitialisms "gPSid".toList
    (List.all_eq_true.mp (by decide +kernel))
  have single := alone (by decide +kernel) (by decide +kernel)
  rw [String.ofList_toList] at single
  refine ⟨letters, uncovered, read.trans ?_, grouping, ?_, ?_, single.trans ?_⟩
  · decide +kernel
  · exact whole ["Gps".toList, "Id".toList, "IDGPS".toList] _ [] cut uncovered
  · decide +kernel
  · decide +kernel

end BindingPress.Naming
