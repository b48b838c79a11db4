import BindingPress.Proofs.Cleaning
import Mathlib.Data.List.Forall2

/-!
What is left of a comment, line by line. Blank lines at both ends go, and so does all white space
around the first line that is kept. Every later line loses one blank at its start and the white
space at its end, a carriage return among it.
-/

namespace BindingPress

namespace Text

variable {text trimmed : List Char}

def EndsSolid (text : List Char) : Prop :=
  ∀ c, text.getLast? = some c → isBlank c = false

theorem endsSolid_trimEnd (text : List Char) : EndsSolid (trimEnd text) :=
  fun _ => trimEnd_last

theorem exists_trimEnd (text : List Char) :
    ∃ after, IsBlankText after ∧ text = trimEnd text ++ after :=
  ⟨text.rtakeWhile isBlank, fun _ => List.mem_rtakeWhile_imp,
    List.rdropWhile_append_rtakeWhile.symm⟩

theorem trimEnd_concat {c : Char} (blank : isBlank c = true) :
    trimEnd (text ++ [c]) = trimEnd text :=
  List.rdropWhile_concat_pos isBlank text c blank

theorem Trims.tight (trims : Trims text trimmed) : IsTight trimmed := by
  obtain ⟨_, _, tight⟩ := trims
  exact tight

theorem Trims.within (trims : Trims text trimmed) {before after : List Char}
    (blankBefore : IsBlankText before) (blankAfter : IsBlankText after) :
    Trims (before ++ (text ++ after)) trimmed := by
  obtain @⟨front, _, back, blankFront, blankBack, tight⟩ := trims
  have whole : before ++ (front ++ (trimmed ++ back) ++ after) =
      before ++ front ++ (trimmed ++ (back ++ after)) := by simp
  rw [whole]
  exact .mk (List.forall_mem_append.mpr ⟨blankBefore, blankFront⟩)
    (List.forall_mem_append.mpr ⟨blankBack, blankAfter⟩) tight

theorem Trims.exists_lead (trims : Trims text trimmed) (ends : EndsSolid text) :
    ∃ lead, IsBlankText lead ∧ text = lead ++ trimmed := by
  obtain @⟨lead, _, trail, blankLead, blankTrail, _⟩ := trims
  have nothing : trail = [] := by
    by_contra nonempty
    have last := List.getLast?_eq_some_getLast nonempty
    have blank := blankTrail _ (List.getLast_mem nonempty)
    have solid := ends _ (by rw [List.getLast?_append, List.getLast?_append, last]; rfl)
    rw [solid] at blank
    contradiction
  exact ⟨lead, blankLead, by rw [nothing, List.append_nil]⟩

theorem solids_trim (text : List Char) : solids (trim text) = solids text := by
  generalize same : trim text = trimmed
  obtain @⟨before, _, after, blankBefore, blankAfter, _⟩ := trims_iff.mpr same.symm
  rw [solids_append, solids_append, solids_eq_nil_iff.mpr blankBefore,
    solids_eq_nil_iff.mpr blankAfter, List.nil_append, List.append_nil]

end Text

open Text (IsBlankText EndsSolid Trims IsTight)

def AreBlank (lines : List (List Char)) : Prop :=
  ∀ line ∈ lines, IsBlankText line

/-- One blank comes off the start of a line, if it is there, and all white space off its end. -/
inductive CleansLine : List Char → List Char → Prop
  | indented {cleaned after : List Char} : IsBlankText after → EndsSolid cleaned →
      CleansLine (' ' :: (cleaned ++ after)) cleaned
  | other {cleaned after : List Char} : (cleaned ++ after).head? ≠ some ' ' → IsBlankText after →
      EndsSolid cleaned → CleansLine (cleaned ++ after) cleaned

inductive CleansLines : List (List Char) → List (List Char) → Prop
  | mk {before middle after rest : List (List Char)} {first start : List Char} :
      AreBlank before → Trims first start → List.Forall₂ CleansLine middle rest →
      AreBlank after → CleansLines (before ++ first :: (middle ++ after)) (start :: rest)

section Line

variable {line cleaned : List Char}

theorem cleanLine_space (line : List Char) : cleanLine (' ' :: line) = Text.trimEnd line :=
  rfl

theorem cleanLine_other (other : line.head? ≠ some ' ') : cleanLine line = Text.trimEnd line := by
  cases line with
  | nil => rfl
  | cons c rest =>
      have differs : ' ' ≠ c := by
        rintro rfl
        exact other rfl
      rw [cleanLine, Text.stripPrefix?, if_neg differs, Option.getD_none]

theorem cleansLine_cleanLine (line : List Char) : CleansLine line (cleanLine line) := by
  by_cases space : line.head? = some ' '
  · obtain ⟨rest, rfl⟩ := List.head?_eq_some_iff.mp space
    obtain ⟨after, blank, split⟩ := Text.exists_trimEnd rest
    have cleans := CleansLine.indented blank (Text.endsSolid_trimEnd rest)
    rwa [← split] at cleans
  · obtain ⟨after, blank, split⟩ := Text.exists_trimEnd line
    rw [cleanLine_other space]
    have cleans := CleansLine.other (split ▸ space) blank (Text.endsSolid_trimEnd line)
    rwa [← split] at cleans

theorem cleanLine_dropCarriageReturn (line : List Char) :
    cleanLine (Text.dropCarriageReturn line) = cleanLine line := by
  rw [Text.dropCarriageReturn]
  split
  next ends =>
    obtain ⟨front, rfl⟩ := List.getLast?_eq_some_iff.mp ends
    have blank : Text.isBlank '\r' = true := by decide
    rw [List.dropLast_concat]
    by_cases space : front.head? = some ' '
    · obtain ⟨rest, rfl⟩ := List.head?_eq_some_iff.mp space
      rw [List.cons_append, cleanLine_space, cleanLine_space, Text.trimEnd_concat blank]
    · have other : (front ++ ['\r']).head? ≠ some ' ' := by
        cases front with
        | nil => decide
        | cons c front => exact space
      rw [cleanLine_other space, cleanLine_other other, Text.trimEnd_concat blank]
  next => rfl

theorem CleansLine.endsSolid (cleans : CleansLine line cleaned) : EndsSolid cleaned := by
  cases cleans <;> assumption

theorem CleansLine.trims (cleans : CleansLine line cleaned) {trimmed : List Char}
    (trims : Trims cleaned trimmed) : Trims line trimmed := by
  cases cleans with
  | indented blank _ => exact trims.within (List.forall_mem_singleton.mpr (by decide)) blank
  | other _ blank _ => exact trims.within (List.forall_mem_nil _) blank

theorem not_mem_cleanLine (free : '\n' ∉ line) : '\n' ∉ cleanLine line := by
  have cleans := cleansLine_cleanLine line
  generalize cleanLine line = cleaned at cleans
  cases cleans <;> simp_all

theorem isBlankText_cleanLine : IsBlankText (cleanLine line) ↔ IsBlankText line := by
  rw [← Text.solids_eq_nil_iff, solids_cleanLine, Text.solids_eq_nil_iff]

end Line

section Join

variable {line : List Char} {lines : List (List Char)}

theorem joinLines_cons (line : List Char) (lines : List (List Char)) :
    joinLines (line :: lines) = line ++ lines.flatMap ('\n' :: ·) := by
  induction lines generalizing line with
  | nil => simp [joinLines]
  | cons next lines ih =>
      rw [joinLines, List.intercalate_cons_cons, ← joinLines, ih, List.flatMap_cons]
      simp

theorem split_joinLines (free : ∀ part ∈ line :: lines, '\n' ∉ part) :
    Text.split '\n' (joinLines (line :: lines)) = line :: lines :=
  Text.split_eq_iff.mpr ⟨List.cons_ne_nil line lines, free, rfl⟩

theorem isBlankText_newline : IsBlankText ['\n'] :=
  List.forall_mem_singleton.mpr (by decide)

theorem AreBlank.flatMap (blank : AreBlank lines) : IsBlankText (lines.flatMap ('\n' :: ·)) := by
  intro c member
  obtain ⟨line, among, within⟩ := List.mem_flatMap.mp member
  rcases List.mem_cons.mp within with rfl | within
  · decide
  · exact blank line among c within

theorem AreBlank.joined (blank : AreBlank lines) : IsBlankText (joinLines lines) := by
  cases lines with
  | nil => exact List.forall_mem_nil _
  | cons line lines =>
      obtain ⟨first, others⟩ := List.forall_mem_cons.mp blank
      rw [joinLines_cons]
      exact List.forall_mem_append.mpr ⟨first, AreBlank.flatMap others⟩

theorem AreBlank.exists_front {before : List (List Char)} (blank : AreBlank before)
    (line : List Char) (lines : List (List Char)) : ∃ front, IsBlankText front ∧
      joinLines (before ++ line :: lines) = front ++ joinLines (line :: lines) := by
  cases before with
  | nil => exact ⟨[], List.forall_mem_nil _, rfl⟩
  | cons first before =>
      obtain ⟨firstBlank, others⟩ := List.forall_mem_cons.mp blank
      refine ⟨first ++ before.flatMap ('\n' :: ·) ++ ['\n'], ?_, ?_⟩
      · exact List.forall_mem_append.mpr
          ⟨List.forall_mem_append.mpr ⟨firstBlank, AreBlank.flatMap others⟩, isBlankText_newline⟩
      · rw [List.cons_append, joinLines_cons, joinLines_cons, List.flatMap_append,
          List.flatMap_cons]
        simp

theorem getLast?_joinLines {last : List Char} (ends : lines.getLast? = some last)
    (nonempty : last ≠ []) : (joinLines (line :: lines)).getLast? = last.getLast? := by
  obtain ⟨front, rfl⟩ := List.getLast?_eq_some_iff.mp ends
  have whole : joinLines (line :: (front ++ [last])) =
      line ++ front.flatMap ('\n' :: ·) ++ ['\n'] ++ last := by
    simp [joinLines_cons]
  rw [whole, List.getLast?_append, List.getLast?_eq_some_getLast nonempty, Option.some_or]

theorem isTight_joinLines (tight : IsTight line) (nonempty : line ≠ [])
    (ends : ∀ last, lines.getLast? = some last → last ≠ [] ∧ EndsSolid last) :
    IsTight (joinLines (line :: lines)) where
  first := by
    intro c first
    rw [joinLines_cons, List.head?_append_of_ne_nil line nonempty] at first
    exact tight.first c first
  last := by
    intro c final
    cases last : lines.getLast? with
    | none =>
        rw [List.getLast?_eq_none_iff.mp last, joinLines_cons, List.flatMap_nil,
          List.append_nil] at final
        exact tight.last c final
    | some lastLine =>
        obtain ⟨lastNonempty, solid⟩ := ends lastLine last
        rw [getLast?_joinLines last lastNonempty] at final
        exact solid c final

theorem trims_joinLines {before middle after : List (List Char)} {lead start : List Char}
    (blankBefore : AreBlank before) (blankLead : IsBlankText lead) (blankAfter : AreBlank after)
    (tight : IsTight (joinLines (start :: middle))) :
    Trims (joinLines (before ++ (lead ++ start) :: (middle ++ after)))
      (joinLines (start :: middle)) := by
  obtain ⟨front, blankFront, joined⟩ :=
    blankBefore.exists_front (lead ++ start) (middle ++ after)
  have whole : joinLines (before ++ (lead ++ start) :: (middle ++ after)) =
      front ++ lead ++ (joinLines (start :: middle) ++ after.flatMap ('\n' :: ·)) := by
    rw [joined, joinLines_cons, joinLines_cons, List.flatMap_append]
    simp only [List.append_assoc]
  rw [whole]
  exact .mk (List.forall_mem_append.mpr ⟨blankFront, blankLead⟩) blankAfter.flatMap tight

theorem trim_joinLines_concat_nil (lines : List (List Char)) :
    Text.trim (joinLines (lines ++ [[]])) = Text.trim (joinLines lines) := by
  cases lines with
  | nil => rfl
  | cons line lines =>
      have whole : joinLines (line :: lines ++ [[]]) = joinLines (line :: lines) ++ ['\n'] := by
        simp [joinLines_cons]
      have trims := Text.trims_trim (joinLines (line :: lines))
      rw [whole]
      exact (trims.within (List.forall_mem_nil _) isBlankText_newline).eq_trim.symm

end Join

section Lines

variable {lines : List (List Char)}

theorem trim_joinLines_lines (text : List Char) :
    Text.trim (joinLines ((Text.lines text).map cleanLine)) =
      Text.trim (joinLines ((Text.split '\n' text).map cleanLine)) := by
  obtain ⟨front, last, split⟩ :=
    (List.eq_nil_or_concat' (Text.split '\n' text)).resolve_left (Text.split_ne_nil '\n' text)
  have ended : (front.map Text.dropCarriageReturn).map cleanLine = front.map cleanLine := by
    rw [List.map_map]
    exact List.map_congr_left fun line _ => cleanLine_dropCarriageReturn line
  rw [Text.lines, split, List.dropLast_concat, List.getLast?_concat, Option.toList_some,
    List.map_append, List.map_append, ended]
  by_cases empty : last = []
  · have dropped : ([[]] : List (List Char)).filter (· != []) = [] := rfl
    rw [empty, dropped, List.map_nil, List.append_nil]
    exact (trim_joinLines_concat_nil _).symm
  · simp [empty]

theorem areBlank_or_exists_kept (lines : List (List Char)) :
    AreBlank lines ∨
      ∃ before first middle after, lines = before ++ first :: (middle ++ after) ∧
        AreBlank before ∧ AreBlank after ∧ ¬IsBlankText first ∧
        ∀ last, middle.getLast? = some last → ¬IsBlankText last := by
  induction lines with
  | nil => exact .inl (List.forall_mem_nil _)
  | cons line lines ih =>
      by_cases blank : IsBlankText line
      · rcases ih with allBlank | ⟨before, first, middle, after, rfl, blankBefore, others⟩
        · exact .inl (List.forall_mem_cons.mpr ⟨blank, allBlank⟩)
        · exact .inr ⟨line :: before, first, middle, after, rfl,
            List.forall_mem_cons.mpr ⟨blank, blankBefore⟩, others⟩
      · rcases ih with allBlank | ⟨before, first, middle, after, rfl, _, blankAfter, solid, ends⟩
        · exact .inr ⟨[], line, [], lines, rfl, List.forall_mem_nil _, allBlank, blank, by simp⟩
        · refine .inr ⟨[], line, before ++ first :: middle, after, by simp, List.forall_mem_nil _,
            blankAfter, blank, ?_⟩
          intro last final
          rw [List.getLast?_append_cons, List.getLast?_cons, Option.some_inj] at final
          cases inner : middle.getLast? with
          | none =>
              rw [inner] at final
              exact final ▸ solid
          | some other =>
              rw [inner] at final
              exact final ▸ ends other inner

theorem AreBlank.map_cleanLine (blank : AreBlank lines) : AreBlank (lines.map cleanLine) :=
  List.forall_mem_map.mpr fun line member => isBlankText_cleanLine.mpr (blank line member)

theorem AreBlank.cleansLines (blank : AreBlank lines) (nonempty : lines ≠ []) :
    CleansLines lines (Text.split '\n' (Text.trim (joinLines (lines.map cleanLine)))) := by
  have nothing : Text.trim (joinLines (lines.map cleanLine)) = [] :=
    Text.trim_eq_nil_iff.mpr blank.map_cleanLine.joined
  obtain ⟨first, after, rfl⟩ := List.exists_cons_of_ne_nil nonempty
  obtain ⟨firstBlank, afterBlank⟩ := List.forall_mem_cons.mp blank
  have firstTrims : Trims first [] := Text.trims_iff.mpr (Text.trim_eq_nil_iff.mpr firstBlank).symm
  rw [nothing]
  exact .mk (List.forall_mem_nil _) firstTrims .nil afterBlank

theorem isTight_map_cleanLine {start : List Char} (tight : IsTight start) (nonempty : start ≠ [])
    (ends : ∀ last, lines.getLast? = some last → ¬IsBlankText last) :
    IsTight (joinLines (start :: lines.map cleanLine)) := by
  refine isTight_joinLines tight nonempty fun cleaned last => ?_
  rw [List.getLast?_map, Option.map_eq_some_iff] at last
  obtain ⟨given, final, rfl⟩ := last
  refine ⟨fun nothing => ends given final ?_, (cleansLine_cleanLine given).endsSolid⟩
  rw [← isBlankText_cleanLine, nothing]
  exact List.forall_mem_nil _

theorem cleansLines_kept {before middle after : List (List Char)} {first : List Char}
    (blankBefore : AreBlank before) (blankAfter : AreBlank after) (solid : ¬IsBlankText first)
    (ends : ∀ last, middle.getLast? = some last → ¬IsBlankText last)
    (free : ∀ line ∈ first :: middle, '\n' ∉ line) :
    CleansLines (before ++ first :: (middle ++ after)) (Text.split '\n'
      (Text.trim (joinLines ((before ++ first :: (middle ++ after)).map cleanLine)))) := by
  have trims := Text.trims_trim (cleanLine first)
  have nonempty : Text.trim (cleanLine first) ≠ [] := by
    rwa [Ne, Text.trim_eq_nil_iff, isBlankText_cleanLine]
  generalize Text.trim (cleanLine first) = start at trims nonempty
  obtain ⟨lead, blankLead, split⟩ := trims.exists_lead (cleansLine_cleanLine first).endsSolid
  obtain ⟨firstFree, middleFree⟩ := List.forall_mem_cons.mp free
  have keptFree : ∀ line ∈ start :: middle.map cleanLine, '\n' ∉ line := by
    refine List.forall_mem_cons.mpr ⟨?_, List.forall_mem_map.mpr ?_⟩
    · have cleanedFree := not_mem_cleanLine firstFree
      rw [split] at cleanedFree
      exact fun member => cleanedFree (List.mem_append_right lead member)
    · exact fun line member => not_mem_cleanLine (middleFree line member)
  have trimsAll := trims_joinLines blankBefore.map_cleanLine blankLead blankAfter.map_cleanLine
    (isTight_map_cleanLine trims.tight nonempty ends)
  rw [List.map_append, List.map_cons, List.map_append, split, ← trimsAll.eq_trim,
    split_joinLines keptFree]
  refine .mk blankBefore ((cleansLine_cleanLine first).trims trims) ?_ blankAfter
  rw [List.forall₂_map_right_iff, List.forall₂_same]
  exact fun line _ => cleansLine_cleanLine line

theorem cleansLines_cleanComment (comment : String) :
    CleansLines (Text.split '\n' comment.toList)
      (Text.split '\n' (cleanComment comment).toList) := by
  have free : ∀ line ∈ Text.split '\n' comment.toList, '\n' ∉ line :=
    fun _ => Text.not_mem_of_mem_split
  have nonempty := Text.split_ne_nil '\n' comment.toList
  rw [cleanComment, String.toList_ofList, trim_joinLines_lines]
  generalize Text.split '\n' comment.toList = lines at free nonempty
  rcases areBlank_or_exists_kept lines with
    blank | ⟨before, first, middle, after, rfl, blankBefore, blankAfter, solid, ends⟩
  · exact blank.cleansLines nonempty
  · refine cleansLines_kept blankBefore blankAfter solid ends fun line member => free line ?_
    rw [← List.cons_append]
    exact List.mem_append_right before (List.mem_append_left after member)

theorem CleansLines.endsSolid {cleaned : List (List Char)} (cleans : CleansLines lines cleaned) :
    ∀ line ∈ cleaned, EndsSolid line := by
  obtain ⟨_, trims, later, _⟩ := cleans
  refine List.forall_mem_cons.mpr ⟨trims.tight.last, ?_⟩
  clear trims
  induction later with
  | nil => exact List.forall_mem_nil _
  | cons cleansLine _ ih => exact List.forall_mem_cons.mpr ⟨cleansLine.endsSolid, ih⟩

end Lines

/-- Cleaning takes nothing but white space off a comment, and of that only what stands around the
whole, at the ends of lines and, as one blank, at their starts. -/
theorem cleanComment_lines (comment : String) :
    Text.solids (cleanComment comment).toList = Text.solids comment.toList ∧
    (∀ line ∈ Text.split '\n' (cleanComment comment).toList, EndsSolid line) ∧
    IsTight (cleanComment comment).toList ∧
    (cleanComment comment = "" ↔ IsBlankText comment.toList) ∧
    CleansLines (Text.split '\n' comment.toList)
      (Text.split '\n' (cleanComment comment).toList) := by
  have cleans := cleansLines_cleanComment comment
  refine ⟨?_, cleans.endsSolid, ?_, ?_, cleans⟩
  · rw [cleanComment, String.toList_ofList, Text.solids_trim, solids_joinLines]
  · rw [cleanComment, String.toList_ofList]
    exact (Text.trims_trim _).tight
  · rw [cleanComment_eq_empty_iff, not_isUsable_iff]

end BindingPress
