import BindingPress.Proofs.SnakeCase
import Mathlib

/-!
Names of plain words: small letters and digits, at least two of them and the first one a letter. In
camel case such a name falls into the same words again, if no initialism is found in them.
-/

namespace BindingPress.Naming

def isSmall (c : Char) : Bool :=
  c.isLower || c.isDigit

def isPlainWord : List Char → Bool
  | letter :: next :: rest => letter.isLower && (next :: rest).all isSmall
  | _ => false

theorem isPlainWord_iff {word : List Char} :
    isPlainWord word = true ↔
      ∃ letter next rest, word = letter :: next :: rest ∧ letter.isLower = true ∧
        ∀ c ∈ next :: rest, isSmall c = true := by
  constructor
  · intro plain
    match word with
    | letter :: next :: rest =>
        rw [isPlainWord, Bool.and_eq_true, List.all_eq_true] at plain
        exact ⟨letter, next, rest, rfl, plain⟩
  · rintro ⟨letter, next, rest, rfl, small, others⟩
    rw [isPlainWord, Bool.and_eq_true, List.all_eq_true]
    exact ⟨small, others⟩

theorem toNat_lt_of_isSmall {c : Char} (small : isSmall c = true) : c.toNat < 128 := by
  simp only [isSmall, Char.isLower, Char.isDigit, Bool.or_eq_true, Bool.and_eq_true,
    decide_eq_true_eq, ge_iff_le, UInt32.le_iff_toNat_le] at small
  have lastLetter : 'z'.val.toNat = 122 := rfl
  have lastDigit : '9'.val.toNat = 57 := rfl
  show c.val.toNat < 128
  omega

theorem isSmall_of_isLower {c : Char} (small : c.isLower = true) : isSmall c = true := by
  simp [isSmall, small]

theorem small_ascii : ∀ c : Char, c.toNat < 128 → isSmall c = true →
    Text.isUppercase c = false ∧ (Text.isLowercase c || Text.isNumeric c) = true ∧
      isAlphanumeric c = true ∧ c.toLower = c := by
  apply Text.forall_ascii
  decide +kernel

theorem letter_ascii : ∀ c : Char, c.toNat < 128 → c.isLower = true →
    Text.isUppercase c.toUpper = true := by
  apply Text.forall_ascii
  decide +kernel

theorem small_facts {c : Char} (small : isSmall c = true) :
    Text.isUppercase c = false ∧ (Text.isLowercase c || Text.isNumeric c) = true ∧
      isAlphanumeric c = true ∧ c.toLower = c :=
  small_ascii c (toNat_lt_of_isSmall small) small

theorem isUppercase_of_isSmall {c : Char} (small : isSmall c = true) :
    Text.isUppercase c = false :=
  (small_facts small).1

theorem isAlphanumeric_of_isSmall {c : Char} (small : isSmall c = true) :
    isAlphanumeric c = true :=
  (small_facts small).2.2.1

theorem lower_small {text : List Char} (small : ∀ c ∈ text, isSmall c = true) :
    Text.lower text = text := by
  rw [Text.lower_eq_map fun c member => toNat_lt_of_isSmall (small c member)]
  calc text.map Char.toLower
      _ = text.map id := List.map_congr_left fun c member => (small_facts (small c member)).2.2.2
      _ = text := List.map_id text

section

variable {word : List Char}

theorem isSmall_of_mem_plainWord (plain : isPlainWord word = true) :
    ∀ c ∈ word, isSmall c = true := by
  obtain ⟨letter, next, rest, rfl, lower, others⟩ := isPlainWord_iff.mp plain
  exact List.forall_mem_cons.mpr ⟨isSmall_of_isLower lower, others⟩

theorem capitalize_plainWord (plain : isPlainWord word = true) :
    ∃ letter next rest, word = letter :: next :: rest ∧
      capitalize word = letter.toUpper :: next :: rest ∧ letter.isLower = true ∧
      ∀ c ∈ next :: rest, isSmall c = true := by
  obtain ⟨letter, next, rest, rfl, lower, others⟩ := isPlainWord_iff.mp plain
  have ascii := toNat_lt_of_isSmall (isSmall_of_isLower lower)
  refine ⟨letter, next, rest, rfl, ?_, lower, others⟩
  rw [capitalize, Text.upperChar, if_pos ascii, List.singleton_append]

theorem respells_self (plain : isPlainWord word = true) : Respells word word :=
  ⟨rfl, lower_small (isSmall_of_mem_plainWord plain)⟩

theorem respells_capitalize (plain : isPlainWord word = true) : Respells word (capitalize word) := by
  obtain ⟨letter, next, rest, rfl, capital, lower, others⟩ := capitalize_plainWord plain
  have small := isSmall_of_isLower lower
  have ascii := toNat_lt_of_isSmall small
  have later : ∀ c ∈ next :: rest, c.toNat < 128 :=
    fun c member => toNat_lt_of_isSmall (others c member)
  rw [capital]
  refine ⟨?_, ?_⟩
  · have raised : Alike [letter] [letter.toUpper] := isRecasing_toUpper.alike (by simpa using ascii)
    rw [Alike] at raised ⊢
    simpa using raised
  · rw [Text.lower_eq_map, List.map_cons, isRecasing_toUpper.lower letter ascii,
      (small_facts small).2.2.2, ← Text.lower_eq_map later, lower_small others]
    exact List.forall_mem_cons.mpr ⟨isRecasing_toUpper.ascii letter ascii, later⟩

end

section

variable {words : List (List Char)}

theorem isUppercase_of_head (plain : ∀ word ∈ words, isPlainWord word = true) :
    ∀ c ∈ (words.flatMap capitalize).head?, Text.isUppercase c = true := by
  intro c first
  cases words with
  | nil => simp at first
  | cons word rest =>
      obtain ⟨letter, next, others, rfl, capital, lower, _⟩ :=
        capitalize_plainWord (List.forall_mem_cons.mp plain).1
      rw [List.flatMap_cons, capital] at first
      cases first
      exact letter_ascii letter (toNat_lt_of_isSmall (isSmall_of_isLower lower)) lower

theorem casePieces_append_capitalized {c next : Char} {others : List Char}
    (small : ∀ d ∈ next :: others, isSmall d = true)
    (plain : ∀ word ∈ words, isPlainWord word = true) :
    casePieces (c :: next :: others ++ words.flatMap capitalize) =
      (c :: next :: others) :: casePieces (words.flatMap capitalize) := by
  apply casePieces_cons_append
  · exact fun d member => isUppercase_of_isSmall (small d member)
  · intro previous last d after following
    rw [List.getLast?_cons_cons] at last
    obtain ⟨_, ending, _⟩ := small_facts (small previous (List.mem_of_getLast? last))
    have starting := isUppercase_of_head plain d (by rw [following]; rfl)
    simp [startsPiece, starting, ending]

theorem casePieces_capitalized (plain : ∀ word ∈ words, isPlainWord word = true) :
    casePieces (words.flatMap capitalize) = words.map capitalize := by
  induction words with
  | nil => rfl
  | cons word rest ih =>
      obtain ⟨here, later⟩ := List.forall_mem_cons.mp plain
      obtain ⟨letter, next, others, rfl, capital, _, small⟩ := capitalize_plainWord here
      rw [List.flatMap_cons, List.map_cons, capital, casePieces_append_capitalized small later,
        ih later]

theorem casePieces_lowerCamel {first : List Char} (here : isPlainWord first = true)
    (later : ∀ word ∈ words, isPlainWord word = true) :
    casePieces (first ++ words.flatMap capitalize) = first :: words.map capitalize := by
  obtain ⟨letter, next, others, rfl, _, _, small⟩ := capitalize_plainWord here
  rw [casePieces_append_capitalized small later, casePieces_capitalized later]

theorem isAlphanumeric_capitalized (plain : ∀ word ∈ words, isPlainWord word = true) :
    ∀ c ∈ words.flatMap capitalize, isAlphanumeric c = true := by
  intro c member
  obtain ⟨word, placed, spelled⟩ := List.mem_flatMap.mp member
  obtain ⟨letter, next, others, rfl, capital, lower, small⟩ :=
    capitalize_plainWord (plain word placed)
  rw [capital] at spelled
  rcases List.mem_cons.mp spelled with rfl | later
  · have kept := isSmall_of_isLower lower
    rw [isRecasing_toUpper.alphanumeric letter (toNat_lt_of_isSmall kept)]
    exact isAlphanumeric_of_isSmall kept
  · exact isAlphanumeric_of_isSmall (small c later)

theorem respells_capitalized (plain : ∀ word ∈ words, isPlainWord word = true) :
    List.Forall₂ Respells words (words.map capitalize) := by
  rw [List.forall₂_map_right_iff, List.forall₂_same]
  exact fun word member => respells_capitalize (plain word member)

variable {initialisms : Initialisms}

theorem tokens_upperCamel (plain : ∀ word ∈ words, isPlainWord word = true)
    (free : AreFree initialisms words) :
    tokens initialisms (words.flatMap capitalize) = asWords words := by
  apply tokens_eq_words (isAlphanumeric_capitalized plain) ?_ free
  rw [casePieces_capitalized plain]
  exact respells_capitalized plain

theorem tokens_lowerCamel {first : List Char} (here : isPlainWord first = true)
    (later : ∀ word ∈ words, isPlainWord word = true)
    (free : AreFree initialisms (first :: words)) :
    tokens initialisms (first ++ words.flatMap capitalize) = asWords (first :: words) := by
  apply tokens_eq_words ?_ ?_ free
  · rw [List.forall_mem_append]
    refine ⟨?_, isAlphanumeric_capitalized later⟩
    exact fun c member => isAlphanumeric_of_isSmall (isSmall_of_mem_plainWord here c member)
  · rw [casePieces_lowerCamel here later]
    exact .cons (respells_self here) (respells_capitalized later)

theorem isStable_plainWord {word : List Char} (plain : isPlainWord word = true)
    (free : AreFree initialisms [word]) :
    IsStable initialisms Text.lower (.word (String.ofList word)) where
  reread := by
    have alone : tokens initialisms (word ++ [].flatMap capitalize) = asWords [word] :=
      tokens_lowerCamel plain (by simp) free
    rw [List.flatMap_nil, List.append_nil] at alone
    rw [Token.text, String.toList_ofList, lower_small (isSmall_of_mem_plainWord plain), alone]
    rfl
  mark mark same := by contradiction

theorem snake_asWords (plain : ∀ word ∈ words, isPlainWord word = true) :
    snake Text.lower (asWords words) = ['_'].intercalate words := by
  induction words with
  | nil => rfl
  | cons word rest ih =>
      obtain ⟨here, later⟩ := List.forall_mem_cons.mp plain
      have kept := lower_small (isSmall_of_mem_plainWord here)
      cases rest with
      | nil => simpa [asWords, snake, Token.text] using kept
      | cons next rest =>
          rw [List.intercalate_cons_cons, ← ih later]
          simp [asWords, snake, Token.text, Token.isSymbol, kept]

theorem tokens_intercalate (plain : ∀ word ∈ words, isPlainWord word = true)
    (free : AreFree initialisms words) :
    tokens initialisms (['_'].intercalate words) = asWords words := by
  rw [← snake_asWords plain]
  apply tokens_snake
  intro token member
  obtain ⟨word, placed, rfl⟩ := List.mem_map.mp member
  refine isStable_plainWord (plain word placed) (free.of_infix ?_)
  exact (List.singleton_infix_iff word words).mpr placed

end

namespace Identifier

variable {name : Identifier} {words : List (List Char)}

theorem toList_upperCamel (read : name.tokens = asWords words) :
    name.upperCamel.toList = words.flatMap capitalize := by
  rw [upperCamel, String.toList_ofList, read, asWords, List.flatMap_map]
  apply List.flatMap_congr
  intro word _
  rw [Token.camel, String.toList_ofList]

theorem toList_lowerCamel {first : List Char} (plain : isPlainWord first = true)
    (read : name.tokens = asWords (first :: words)) :
    name.lowerCamel.toList = first ++ words.flatMap capitalize := by
  have kept := lower_small (isSmall_of_mem_plainWord plain)
  rw [lowerCamel, read, asWords, List.map_cons]
  simp only [Token.text, String.toList_ofList, kept, List.flatMap_map, Token.camel]

theorem lowerSnake_eq (plain : ∀ word ∈ words, isPlainWord word = true)
    (read : name.tokens = asWords words) :
    name.lowerSnake = String.ofList (['_'].intercalate words) := by
  rw [lowerSnake, read, snake_asWords plain]

/-- Plain words come through camel case, in either form, as they were. -/
theorem parse_plainWords (raw : String) (initialisms : Initialisms) (words : List (List Char))
    (plain : ∀ word ∈ words, isPlainWord word = true) (free : AreFree initialisms words)
    (spelled : raw.toList = ['_'].intercalate words) :
    (parse raw initialisms).tokens = asWords words ∧
      (parse (parse raw initialisms).upperCamel initialisms).tokens = asWords words ∧
      (parse (parse raw initialisms).lowerCamel initialisms).tokens = asWords words ∧
      (parse (parse raw initialisms).upperCamel initialisms).lowerSnake = raw ∧
      (parse (parse raw initialisms).lowerCamel initialisms).lowerSnake = raw := by
  have read : (parse raw initialisms).tokens = asWords words := by
    rw [parse, spelled]
    exact tokens_intercalate plain free
  have upper : (parse (parse raw initialisms).upperCamel initialisms).tokens = asWords words := by
    rw [parse, toList_upperCamel read]
    exact tokens_upperCamel plain free
  have lower : (parse (parse raw initialisms).lowerCamel initialisms).tokens = asWords words := by
    cases words with
    | nil =>
        have empty : (parse raw initialisms).lowerCamel = "" := by rw [lowerCamel, read]; rfl
        rw [empty, parse, String.toList_empty]
        exact tokens_upperCamel plain free
    | cons first rest =>
        obtain ⟨here, later⟩ := List.forall_mem_cons.mp plain
        rw [parse, toList_lowerCamel here read]
        exact tokens_lowerCamel here later free
  have written : String.ofList (['_'].intercalate words) = raw := by
    rw [← spelled, String.ofList_toList]
  refine ⟨read, upper, lower, ?_, ?_⟩
  · rw [lowerSnake_eq plain upper, written]
  · rw [lowerSnake_eq plain lower, written]

def commandInitialisms : Initialisms :=
  .ofList ["id", "mod", "setmode"]

theorem setId2Mode_plainWords :
    (∀ word ∈ ["set".toList, "id2".toList, "mode".toList], isPlainWord word = true) ∧
      AreFree commandInitialisms ["set".toList, "id2".toList, "mode".toList] ∧
      (parse "set_id2_mode" commandInitialisms).upperCamel = "SetId2Mode" ∧
      (parse "set_id2_mode" commandInitialisms).lowerCamel = "setId2Mode" ∧
      (parse "SetId2Mode" commandInitialisms).tokens =
        [.word "set", .word "id2", .word "mode"] ∧
      (parse "setId2Mode" commandInitialisms).tokens =
        [.word "set", .word "id2", .word "mode"] ∧
      (parse "SetId2Mode" commandInitialisms).lowerSnake = "set_id2_mode" ∧
      (parse "setId2Mode" commandInitialisms).lowerSnake = "set_id2_mode" := by
  have plain : ∀ word ∈ ["set".toList, "id2".toList, "mode".toList],
      isPlainWord word = true := by
    decide +kernel
  have free : AreFree commandInitialisms ["set".toList, "id2".toList, "mode".toList] := by
    decide +kernel
  have spelled : "set_id2_mode".toList =
      ['_'].intercalate ["set".toList, "id2".toList, "mode".toList] := by
    simp only [String.reduceToList]
    decide +kernel
  obtain ⟨read, upper, lower, upperSnake, lowerSnake⟩ :=
    parse_plainWords "set_id2_mode" commandInitialisms _ plain free spelled
  have capital : (parse "set_id2_mode" commandInitialisms).upperCamel = "SetId2Mode" := by
    rw [upperCamel, read]
    decide +kernel
  have small : (parse "set_id2_mode" commandInitialisms).lowerCamel = "setId2Mode" := by
    rw [lowerCamel, read]
    decide +kernel
  rw [capital] at upper upperSnake
  rw [small] at lower lowerSnake
  have named : asWords ["set".toList, "id2".toList, "mode".toList] =
      [.word "set", .word "id2", .word "mode"] := by
    decide +kernel
  exact ⟨plain, free, capital, small, upper.trans named, lower.trans named, upperSnake, lowerSnake⟩

end Identifier

structure IsOrdinary (initialisms : Initialisms) (word : List Char) : Prop where
  plain : isPlainWord word = true
  free : initialisms.haveStart (word.take 1) = false

section

variable {initialisms : Initialisms} {words : List (List Char)}

theorem IsOrdinary.not_contains {word text : List Char} (ordinary : IsOrdinary initialisms word)
    (started : word.take 1 <+: text) : initialisms.contains text = false := by
  obtain ⟨rest, rfl⟩ := started
  exact Initialisms.not_contains_append ordinary.free rest

theorem areFree_of_ordinary (ordinary : ∀ word ∈ words, IsOrdinary initialisms word) :
    AreFree initialisms words where
  unmatched group nonempty within := by
    obtain ⟨word, others, rfl⟩ := List.exists_cons_of_ne_nil nonempty
    have member : word ∈ words := within.subset (by simp)
    apply (ordinary word member).not_contains
    exact (List.take_prefix 1 word).trans (List.prefix_append word others.flatten)
  uncovered word member covered := by
    obtain ⟨letter, next, others, spelled, _⟩ := isPlainWord_iff.mp (ordinary word member).plain
    obtain ⟨parts, cover⟩ := covered
    obtain ⟨first, rest, _, _, nonempty, split, held, _⟩ := cover.exists_first (by simp [spelled])
    obtain ⟨c, more, rfl⟩ := List.exists_cons_of_ne_nil nonempty
    have started : word.take 1 <+: c :: more := by simp [← split]
    have missed := (ordinary word member).not_contains started
    rw [held] at missed
    contradiction

theorem isSettled_of_ordinary (ordinary : ∀ word ∈ words, IsOrdinary initialisms word)
    {raw : String} (spelled : raw.toList = ['_'].intercalate words) :
    ∀ segment ∈ segments initialisms (Identifier.parse raw initialisms).upperCamel.toList,
      segment.IsSettled := by
  have plain : ∀ word ∈ words, isPlainWord word = true :=
    fun word member => (ordinary word member).plain
  have free := areFree_of_ordinary ordinary
  have read : (Identifier.parse raw initialisms).tokens = asWords words := by
    rw [Identifier.parse, spelled]
    exact tokens_intercalate plain free
  have pieces := casePieces_capitalized plain
  have alike : List.Forall₂ Alike words (casePieces (words.flatMap capitalize)) := by
    rw [pieces]
    exact (respells_capitalized plain).imp fun _ _ spelled => spelled.alike
  rw [Identifier.toList_upperCamel read,
    segments_eq_words (isAlphanumeric_capitalized plain) alike free, pieces]
  intro segment member
  obtain ⟨piece, placed, rfl⟩ := List.mem_map.mp member
  obtain ⟨word, given, rfl⟩ := List.mem_map.mp placed
  rw [Segment.IsSettled, Segment.token, (respells_capitalize (plain word given)).lowered,
    Token.camel, String.toList_ofList, Segment.chars]

end

end BindingPress.Naming
