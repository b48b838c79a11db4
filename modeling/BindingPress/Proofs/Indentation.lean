import BindingPress.Proofs.Trimming
import BindingPress.Template.Filter

/-!
Indenting a text line by line. Blank lines stay as they are, and so does the first unless it is asked
for; all others get the spaces in front. Spaces make no line blank and no blank line anything else,
so widths add up, and the lines can be moved back again.
-/

namespace BindingPress.Template

theorem isIndented_iff {first : Bool} {position : Nat} {line : List Char} :
    isIndented first position line = true ↔
      (0 < position ∨ first = true) ∧ ¬Text.IsBlankText line := by
  rw [← Text.trim_eq_nil_iff]
  simp [isIndented]

theorem isIndented_padded (width : Nat) (first : Bool) (position : Nat) (line : List Char) :
    isIndented first position (List.replicate width ' ' ++ line) =
      isIndented first position line := by
  have spaces : Text.IsBlankText (List.replicate width ' ') := by
    intro c member
    rw [List.eq_of_mem_replicate member]
    decide
  have same : Text.IsBlankText (List.replicate width ' ' ++ line) ↔ Text.IsBlankText line :=
    List.forall_mem_append.trans (and_iff_right spaces)
  rw [Bool.eq_iff_iff, isIndented_iff, isIndented_iff, same]

section Moving

variable (move : List Char → List Char) (first : Bool)

def moveLine (position : Nat) (line : List Char) : List Char :=
  if isIndented first position line then move line else line

def moveLines (text : List Char) : List Char :=
  List.intercalate ['\n'] ((Text.split '\n' text).mapIdx (moveLine move first))

theorem moveLine_padded (width position : Nat) (line : List Char) :
    moveLine move first position (moveLine (List.replicate width ' ' ++ ·) first position line) =
      moveLine (fun line => move (List.replicate width ' ' ++ line)) first position line := by
  unfold moveLine
  by_cases indented : isIndented first position line = true
  · simp only [indented, isIndented_padded, if_true]
  · simp only [indented, if_false, Bool.false_eq_true]

theorem split_indentText (width : Nat) (text : List Char) :
    Text.split '\n' (indentText width first text) =
      (Text.split '\n' text).mapIdx (moveLine (List.replicate width ' ' ++ ·) first) := by
  refine Text.split_eq_iff.mpr ⟨?_, ?_, rfl⟩
  · simpa using Text.split_ne_nil '\n' text
  · intro line member
    obtain ⟨position, bound, rfl⟩ := List.mem_mapIdx.mp member
    have whole := Text.not_mem_of_mem_split (List.getElem_mem bound)
    rw [moveLine]
    split
    next => simpa using whole
    next => exact whole

theorem moveLines_indentText (width : Nat) (text : List Char) :
    moveLines move first (indentText width first text) =
      moveLines (fun line => move (List.replicate width ' ' ++ line)) first text := by
  rw [moveLines, split_indentText, List.mapIdx_mapIdx]
  simp only [Function.comp_def, moveLine_padded]
  rfl

theorem moveLines_id (text : List Char) : moveLines (fun line => line) first text = text := by
  have unmoved : moveLine (fun line => line) first = fun _ line => line := by
    funext position line
    exact ite_self line
  have same : (Text.split '\n' text).mapIdx (fun _ line => line) = Text.split '\n' text :=
    List.ext_getElem? fun position => by simp
  obtain ⟨_, _, joined⟩ := Text.split_eq_iff.mp (rfl : Text.split '\n' text = Text.split '\n' text)
  rw [moveLines, unmoved, same, ← joined]

end Moving

theorem indentText_indentText (m n : Nat) (first : Bool) (text : List Char) :
    indentText n first (indentText m first text) = indentText (m + n) first text := by
  have spaces : (fun line => List.replicate n ' ' ++ (List.replicate m ' ' ++ line)) =
      fun line => List.replicate (m + n) ' ' ++ line := by
    funext line
    rw [← List.append_assoc, List.replicate_append_replicate, Nat.add_comm]
  calc indentText n first (indentText m first text)
      = moveLines (fun line => List.replicate n ' ' ++ (List.replicate m ' ' ++ line)) first text :=
        moveLines_indentText _ first m text
    _ = indentText (m + n) first text := by rw [spaces]; rfl

theorem indentText_zero (first : Bool) (text : List Char) : indentText 0 first text = text :=
  moveLines_id first text

def outdentText (width : Nat) (first : Bool) (text : List Char) : List Char :=
  moveLines (List.drop width) first text

theorem outdentText_indentText (width : Nat) (first : Bool) (text : List Char) :
    outdentText width first (indentText width first text) = text := by
  have dropped : (fun line => List.drop width (List.replicate width ' ' ++ line)) =
      fun line => line := by
    funext line
    exact List.drop_left' List.length_replicate
  rw [outdentText, moveLines_indentText, dropped, moveLines_id]

def StaysPut (first : Bool) (position : Nat) (line : List Char) : Prop :=
  Text.IsBlankText line ∨ position = 0 ∧ first = false

theorem staysPut_iff {first : Bool} {position : Nat} {line : List Char} :
    StaysPut first position line ↔ ¬isIndented first position line = true := by
  rw [isIndented_iff, StaysPut, not_and_or, not_not, or_comm]
  simp

/-- How the lines of a text are found again once it is indented. -/
structure IsIndentation (width : Nat) (first : Bool) (text result : List Char) : Prop where
  count : (Text.split '\n' result).length = (Text.split '\n' text).length
  kept : ∀ position line, (Text.split '\n' text)[position]? = some line →
    StaysPut first position line → (Text.split '\n' result)[position]? = some line
  moved : ∀ position line, (Text.split '\n' text)[position]? = some line →
    ¬StaysPut first position line →
    (Text.split '\n' result)[position]? = some (List.replicate width ' ' ++ line)

theorem indentText_isIndentation (width : Nat) (first : Bool) (text : List Char) :
    IsIndentation width first text (indentText width first text) where
  count := by rw [split_indentText, List.length_mapIdx]
  kept position line found stays := by
    have unmoved := staysPut_iff.mp stays
    rw [split_indentText, List.getElem?_mapIdx, found, Option.map_some, moveLine, if_neg unmoved]
  moved position line found leaves := by
    have indented := not_not.mp (mt staysPut_iff.mpr leaves)
    rw [split_indentText, List.getElem?_mapIdx, found, Option.map_some, moveLine, if_pos indented]

structure AsksIndent (arguments : List (String × Value)) (width : Nat) (first : Bool) : Prop where
  width : arguments.lookup "width" = some (.int width) ∨
    arguments.lookup "width" = none ∧ width = defaultIndentation
  first : arguments.lookup "first" = some (.bool first) ∨
    (∀ given, arguments.lookup "first" ≠ some (.bool given)) ∧ first = false

theorem indent_text {arguments : List (String × Value)} {width : Nat} {first : Bool}
    (asks : AsksIndent arguments width first) (text : String) :
    indent arguments (.text text) =
      .ok (.text (String.ofList (indentText width first text.toList))) := by
  obtain ⟨given | ⟨missing, rfl⟩, shown | ⟨other, rfl⟩⟩ := asks
  · simp [indent, given, shown]
  · simp [indent, given]
  · simp [indent, missing, shown]
  · simp [indent, missing]

/-- Widths act on texts as numbers add up: one indentation after another is that by their sum, and
none at all for no width. Line by line the spaces of the width go in front of whatever is not left
where it is, and taking as many characters away again gives the text back. -/
theorem indent_action {once again whole nothing : List (String × Value)} {m n : Nat} {first : Bool}
    (asksOnce : AsksIndent once m first) (asksAgain : AsksIndent again n first)
    (asksWhole : AsksIndent whole (m + n) first) (asksNothing : AsksIndent nothing 0 first) (text : String) :
    indent once (.text text) >>= indent again = indent whole (.text text) ∧
    indent nothing (.text text) = .ok (.text text) ∧
    ∃ result, indent once (.text text) = .ok (.text result) ∧
      IsIndentation m first text.toList result.toList ∧
      outdentText m first result.toList = text.toList := by
  have composed : indent once (.text text) >>= indent again =
      indent again (.text (String.ofList (indentText m first text.toList))) := by
    rw [indent_text asksOnce]
    rfl
  refine ⟨?_, ?_, String.ofList (indentText m first text.toList), indent_text asksOnce text, ?_, ?_⟩
  · rw [composed, indent_text asksAgain, indent_text asksWhole, String.toList_ofList,
      indentText_indentText]
  · rw [indent_text asksNothing, indentText_zero, String.ofList_toList]
  · rw [String.toList_ofList]
    exact indentText_isIndentation m first text.toList
  · rw [String.toList_ofList, outdentText_indentText]

def noteText : String :=
  "Arms.\r\n\u3000\n  Then waits.\n"

theorem noteText_indented :
    AsksIndent [("first", .bool true)] 4 true ∧
    indent [("first", .bool true)] (.text noteText) >>=
        indent [("width", .int 2), ("first", .bool true)] =
      .ok (.text "      Arms.\r\n\u3000\n        Then waits.\n") ∧
    indent [("width", .int 0), ("first", .bool true)] (.text noteText) = .ok (.text noteText) ∧
    ∃ result, indent [("first", .bool true)] (.text noteText) = .ok (.text result) ∧
      IsIndentation 4 true noteText.toList result.toList ∧
      outdentText 4 true result.toList = noteText.toList := by
  have byDefault : AsksIndent [("first", .bool true)] 4 true := ⟨.inr ⟨rfl, rfl⟩, .inl rfl⟩
  have byTwo : AsksIndent [("width", .int 2), ("first", .bool true)] 2 true := ⟨.inl rfl, .inl rfl⟩
  have bySix : AsksIndent [("width", .int 6), ("first", .bool true)] (4 + 2) true := ⟨.inl rfl, .inl rfl⟩
  have byZero : AsksIndent [("width", .int 0), ("first", .bool true)] 0 true := ⟨.inl rfl, .inl rfl⟩
  obtain ⟨composed, zero, moved⟩ := indent_action byDefault byTwo bySix byZero noteText
  refine ⟨byDefault, composed.trans ?_, zero, moved⟩
  rfl

end BindingPress.Template
