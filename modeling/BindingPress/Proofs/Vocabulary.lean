import BindingPress.Proofs.Segments

/-!
What a further initialism can change. Whatever the reading of a name asks of the initialisms is
whether they hold some part of that name, so two sets that hold the same parts of it read it alike.
-/

namespace BindingPress

theorem Text.upper_isInfix {part text : List Char} (within : part <:+: text) :
    upper part <:+: upper text := by
  obtain ⟨before, after, rfl⟩ := within
  rw [upper_append, upper_append]
  exact ⟨_, _, rfl⟩

namespace Naming

/-- Each part of the text is an initialism of both sets or of neither. -/
def AgreeOn (initialisms others : Initialisms) (text : List Char) : Prop :=
  ∀ part, part <:+: text → initialisms.contains part = others.contains part

section

variable {initialisms others : Initialisms}

theorem AgreeOn.of_infix {text inner : List Char} (agree : AgreeOn initialisms others text)
    (within : inner <:+: text) : AgreeOn initialisms others inner :=
  fun part found => agree part (found.trans within)

theorem longestInitialism_congr (joined : List Char) {pieces : List (List Char)}
    (agree : AgreeOn initialisms others (joined ++ pieces.flatten)) :
    longestInitialism initialisms joined pieces = longestInitialism others joined pieces := by
  induction pieces generalizing joined with
  | nil => rfl
  | cons piece rest ih =>
      rw [List.flatten_cons, ← List.append_assoc] at agree
      have here := agree (joined ++ piece) (List.prefix_append _ _).isInfix
      rw [longestInitialism_cons, longestInitialism_cons, ih (joined ++ piece) agree, here]

theorem longestFirst_congr {taken text : List Char} (cuts : List (Option Cut))
    (agree : AgreeOn initialisms others (taken ++ text)) :
    longestFirst initialisms taken text cuts = longestFirst others taken text cuts := by
  induction text generalizing taken cuts with
  | nil => rfl
  | cons c rest ih =>
      cases cuts with
      | nil => rfl
      | cons cut cuts =>
          rw [List.append_cons] at agree
          have here := agree (taken ++ [c]) (List.prefix_append _ _).isInfix
          rw [longestFirst_cons, longestFirst_cons, ih cuts agree, here]

theorem initialismCuts_congr {text : List Char} (agree : AgreeOn initialisms others text) :
    initialismCuts initialisms text = initialismCuts others text := by
  induction text with
  | nil => rfl
  | cons c rest ih =>
      have later := ih (agree.of_infix (List.suffix_cons c rest).isInfix)
      rw [initialismCuts, initialismCuts, later]
      exact congrArg (· :: _) (longestFirst_congr _ agree)

theorem splitInitialisms_congr {piece : List Char} (agree : AgreeOn initialisms others piece) :
    splitInitialisms initialisms piece = splitInitialisms others piece := by
  rw [splitInitialisms, splitInitialisms, initialismCuts_congr agree]

theorem pieceSegments_cons (piece : List Char) (rest : List (List Char)) :
    pieceSegments initialisms (piece :: rest) =
      (longestInitialism initialisms [] (piece :: rest)).elim
        ((splitInitialisms initialisms piece).elim [.word piece] (·.map .initialism) ++
          pieceSegments initialisms rest)
        fun matched => .initialism matched.1 :: pieceSegments initialisms matched.2 := by
  rw [pieceSegments]
  split
  next found following matched => rw [matched, Option.elim_some]
  next unmatched =>
    rw [unmatched, Option.elim_none]
    cases splitInitialisms initialisms piece <;> rfl

theorem pieceSegments_congr {pieces : List (List Char)}
    (agree : AgreeOn initialisms others pieces.flatten) :
    pieceSegments initialisms pieces = pieceSegments others pieces := by
  fun_induction pieceSegments initialisms pieces with
  | case1 => rw [pieceSegments]
  | case2 piece rest found following matched ih =>
      obtain ⟨group, _, cut, _⟩ := longestInitialism_eq_some matched
      have later : following.flatten <:+: (piece :: rest).flatten := by
        rw [cut, List.flatten_append]
        exact (List.suffix_append _ _).isInfix
      rw [pieceSegments_cons, ← longestInitialism_congr [] agree, matched, Option.elim_some,
        ih (agree.of_infix later)]
  | case3 piece rest unmatched parts cut ih =>
      have here := agree.of_infix (List.prefix_append piece rest.flatten).isInfix
      have later := agree.of_infix (List.suffix_append piece rest.flatten).isInfix
      rw [pieceSegments_cons, ← longestInitialism_congr [] agree, unmatched, Option.elim_none,
        ← splitInitialisms_congr here, cut, Option.elim_some, ih later]
  | case4 piece rest unmatched uncut ih =>
      have here := agree.of_infix (List.prefix_append piece rest.flatten).isInfix
      have later := agree.of_infix (List.suffix_append piece rest.flatten).isInfix
      rw [pieceSegments_cons, ← longestInitialism_congr [] agree, unmatched, Option.elim_none,
        ← splitInitialisms_congr here, uncut, Option.elim_none, ih later, List.singleton_append]

theorem runSegments_congr {run : List Char} (agree : AgreeOn initialisms others run) :
    runSegments initialisms run = runSegments others run := by
  rw [runSegments, runSegments]
  apply pieceSegments_congr
  rwa [casePieces_flatten]

theorem segments_congr {name : List Char} (agree : AgreeOn initialisms others name) :
    segments initialisms name = segments others name := by
  fun_induction segments initialisms name with
  | case1 => rw [segments]
  | case2 c rest letter ih =>
      have run : c :: rest.takeWhile isAlphanumeric <:+: c :: rest := by
        refine List.IsPrefix.isInfix ?_
        exact List.cons_prefix_cons.mpr ⟨rfl, List.takeWhile_prefix _⟩
      have after : rest.dropWhile isAlphanumeric <:+: c :: rest :=
        ((List.dropWhile_suffix _).trans (List.suffix_cons c rest)).isInfix
      rw [segments, if_pos letter, runSegments_congr (agree.of_infix run),
        ih (agree.of_infix after)]
  | case3 c rest other separator ih =>
      rw [segments, if_neg other, if_pos separator,
        ih (agree.of_infix (List.suffix_cons c rest).isInfix)]
  | case4 c rest other plain ih =>
      rw [segments, if_neg other, if_neg plain,
        ih (agree.of_infix (List.suffix_cons c rest).isInfix)]

theorem Identifier.parse_congr {raw : String} (agree : AgreeOn initialisms others raw.toList) :
    parse raw initialisms = parse raw others := by
  rw [parse, parse, Naming.tokens, Naming.tokens, segments_congr agree]

end

namespace Initialisms

theorem mem_insertWord {word other : String} {words : List String} :
    other ∈ insertWord word words ↔ other = word ∨ other ∈ words := by
  fun_induction insertWord word words with
  | case1 => simp
  | case2 rest => simp
  | case3 first rest => simp
  | case4 first rest _ _ ih =>
      rw [List.mem_cons, ih, List.mem_cons]
      exact or_left_comm

theorem contains_insert {initialisms : Initialisms} {word : String} {text : List Char} :
    (initialisms.insert word).contains text = true ↔
      String.ofList (Text.upper text) = word ∨ initialisms.contains text = true := by
  rw [contains, contains, insert, List.contains_iff_mem, List.contains_iff_mem, mem_insertWord]

theorem contains_foldl_insert {initialisms : Initialisms} {entries : List (List Char)}
    {text : List Char} :
    (entries.foldl (fun set word => set.insert (String.ofList word)) initialisms).contains text =
        true ↔
      initialisms.contains text = true ∨ Text.upper text ∈ entries := by
  induction entries generalizing initialisms with
  | nil => simp
  | cons entry entries ih =>
      rw [List.foldl_cons, ih, contains_insert, String.ofList_inj, List.mem_cons]
      tauto

theorem contains_ofList {entries : List String} {text : List Char} :
    (ofList entries).contains text = true ↔
      Text.upper text ≠ [] ∧
        ∃ entry ∈ entries, Text.upper (Text.trim entry.toList) = Text.upper text := by
  have empty : ({} : Initialisms).contains text = false := rfl
  rw [ofList, contains_foldl_insert, empty, List.mem_filter, List.mem_map, bne_iff_ne, and_comm]
  simp only [Bool.false_eq_true, false_or]

end Initialisms

theorem agreeOn_insert {initialisms : Initialisms} {entry : String} {text : List Char}
    (absent : ∀ part, part <:+: text → Text.upper part ≠ entry.toList) :
    AgreeOn (initialisms.insert entry) initialisms text := by
  intro part within
  have differs : String.ofList (Text.upper part) ≠ entry := by
    rw [Ne, ← String.toList_inj, String.toList_ofList]
    exact absent part within
  rw [Bool.eq_iff_iff, Initialisms.contains_insert, or_iff_right differs]

theorem agreeOn_ofList {front back : List String} {entry : String} {text : List Char}
    (absent : ∀ part, part <:+: text → Text.upper part ≠ Text.upper (Text.trim entry.toList)) :
    AgreeOn (.ofList (front ++ entry :: back)) (.ofList (front ++ back)) text := by
  intro part within
  have differs : Text.upper (Text.trim entry.toList) ≠ Text.upper part :=
    (absent part within).symm
  rw [Bool.eq_iff_iff, Initialisms.contains_ofList, Initialisms.contains_ofList]
  refine and_congr_right fun _ => ?_
  simp only [List.mem_append, List.mem_cons, or_and_right, exists_or, exists_eq_left, differs,
    false_or]

namespace Identifier

/-- A further initialism changes how a name is read only if the name contains it. -/
theorem parse_furtherInitialism (raw : String) :
    (∀ (initialisms : Initialisms) (entry : String),
      ¬entry.toList <:+: Text.upper raw.toList →
        parse raw (initialisms.insert entry) = parse raw initialisms) ∧
    (∀ (front back : List String) (entry : String),
      ¬Text.upper (Text.trim entry.toList) <:+: Text.upper raw.toList →
        parse raw (.ofList (front ++ entry :: back)) = parse raw (.ofList (front ++ back))) ∧
    ∀ (initialisms : Initialisms) (entry : String),
      parse raw (initialisms.insert entry) ≠ parse raw initialisms →
        ∃ part, part <:+: raw.toList ∧ Text.upper part = entry.toList := by
  refine ⟨?_, ?_, ?_⟩
  · intro initialisms entry absent
    refine parse_congr (agreeOn_insert fun part within same => ?_)
    exact absent (same ▸ Text.upper_isInfix within)
  · intro front back entry absent
    refine parse_congr (agreeOn_ofList fun part within same => ?_)
    exact absent (same ▸ Text.upper_isInfix within)
  · intro initialisms entry changed
    by_contra absent
    refine changed (parse_congr (agreeOn_insert fun part within same => ?_))
    exact absent ⟨part, within, same⟩

theorem gpsFixId_furtherInitialism :
    ¬"FIXED".toList <:+: Text.upper "gpsFixId".toList ∧
      parse "gpsFixId" (sensorInitialisms.insert "FIXED") = parse "gpsFixId" sensorInitialisms ∧
      ¬Text.upper (Text.trim " fixed".toList) <:+: Text.upper "gpsFixId".toList ∧
      parse "gpsFixId" (.ofList ["gps", " fixed", "id"]) =
        parse "gpsFixId" (.ofList ["gps", "id"]) ∧
      parse "gpsFixId" (sensorInitialisms.insert "FIX") ≠ parse "gpsFixId" sensorInitialisms ∧
      ∃ part, part <:+: "gpsFixId".toList ∧ Text.upper part = "FIX".toList := by
  obtain ⟨inserted, listed, changed⟩ := parse_furtherInitialism "gpsFixId"
  have absent : ¬"FIXED".toList <:+: Text.upper "gpsFixId".toList := by
    simp only [String.reduceToList]
    decide +kernel
  have missing : ¬Text.upper (Text.trim " fixed".toList) <:+: Text.upper "gpsFixId".toList := by
    simp only [String.reduceToList]
    decide +kernel
  have differs : parse "gpsFixId" (sensorInitialisms.insert "FIX") ≠
      parse "gpsFixId" sensorInitialisms := by
    simp only [parse, String.reduceToList]
    decide +kernel
  exact ⟨absent, inserted sensorInitialisms "FIXED" absent, missing,
    listed ["gps"] ["id"] " fixed" missing, differs, changed sensorInitialisms "FIX" differs⟩

end Identifier

end Naming
end BindingPress
