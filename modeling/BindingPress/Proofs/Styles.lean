import BindingPress.Proofs.SnakeCase

/-!
The styles of a name. All of them spell the letters of the name and nothing else, except that snake
case puts an underscore between two words that follow each other.
-/

namespace BindingPress.Naming

structure IsPlain (text : List Char) : Prop where
  ascii : ∀ c ∈ text, c.toNat < 128
  separate : ∀ c ∈ text, isSeparator c = false

theorem isPlain_cons {c : Char} {rest : List Char} :
    IsPlain (c :: rest) ↔ IsPlain [c] ∧ IsPlain rest := by
  constructor
  · rintro ⟨ascii, separate⟩
    rw [List.forall_mem_cons] at ascii separate
    exact ⟨⟨by simpa using ascii.1, by simpa using separate.1⟩, ascii.2, separate.2⟩
  · rintro ⟨first, others⟩
    have ascii := first.ascii c (by simp)
    have separate := first.separate c (by simp)
    exact ⟨List.forall_mem_cons.mpr ⟨ascii, others.ascii⟩,
      List.forall_mem_cons.mpr ⟨separate, others.separate⟩⟩

theorem IsPlain.filter_eq {text : List Char} (plain : IsPlain text) :
    text.filter (· != '_') = text := by
  rw [List.filter_eq_self]
  intro c member
  rw [bne_iff_ne]
  rintro rfl
  exact absurd (plain.separate _ member) (by decide)

/-- The text is plain and shows these letters, in whatever case. -/
structure Spells (letters text : List Char) : Prop where
  plain : IsPlain text
  same : text.map Char.toLower = letters.map Char.toLower

namespace Spells

theorem trans {letters text final : List Char} (first : Spells letters text)
    (second : Spells text final) : Spells letters final where
  plain := second.plain
  same := second.same.trans first.same

theorem append {letters text more rest : List Char} (first : Spells letters text)
    (second : Spells more rest) : Spells (letters ++ more) (text ++ rest) where
  plain := ⟨List.forall_mem_append.mpr ⟨first.plain.ascii, second.plain.ascii⟩,
    List.forall_mem_append.mpr ⟨first.plain.separate, second.plain.separate⟩⟩
  same := by rw [List.map_append, List.map_append, first.same, second.same]

theorem flatMap {α : Type} {items : List α} {letters text : α → List Char}
    (each : ∀ item ∈ items, Spells (letters item) (text item)) :
    Spells (items.flatMap letters) (items.flatMap text) := by
  induction items with
  | nil => exact ⟨⟨by simp, by simp⟩, rfl⟩
  | cons item rest ih =>
      obtain ⟨here, later⟩ := List.forall_mem_cons.mp each
      rw [List.flatMap_cons, List.flatMap_cons]
      exact here.append (ih later)

theorem lower_eq {letters text : List Char} (spells : Spells letters text)
    (ascii : ∀ c ∈ letters, c.toNat < 128) : Text.lower text = Text.lower letters := by
  rw [Text.lower_eq_map spells.plain.ascii, Text.lower_eq_map ascii, spells.same]

end Spells

theorem IsRecasing.spells {shift : Char → Char} {text : List Char} (recasing : IsRecasing shift)
    (plain : IsPlain text) : Spells text (text.map shift) where
  plain := by
    refine ⟨recasing.map_ascii plain.ascii, ?_⟩
    rw [List.forall_mem_map]
    intro c member
    have ascii := plain.ascii c member
    by_cases letter : isAlphanumeric c = true
    · rw [← recasing.alphanumeric c ascii] at letter
      exact not_isSeparator_of_isAlphanumeric letter
    · rw [recasing.mark c ascii (Bool.eq_false_iff.mpr letter)]
      exact plain.separate c member
  same := by
    rw [List.map_map]
    exact List.map_congr_left fun c member => recasing.lower c (plain.ascii c member)

theorem spells_self {text : List Char} (plain : IsPlain text) : Spells text text :=
  ⟨plain, rfl⟩

theorem spells_capitalize {text : List Char} (plain : IsPlain text) :
    Spells text (capitalize text) := by
  cases text with
  | nil => exact spells_self plain
  | cons c rest =>
      obtain ⟨first, others⟩ := isPlain_cons.mp plain
      rw [capitalize, Text.upperChar, if_pos (first.ascii c (by simp))]
      exact (isRecasing_toUpper.spells first).append (spells_self others)

theorem Segment.spells_camel {segment : Segment} (plain : IsPlain segment.chars) :
    Spells segment.chars segment.token.camel := by
  cases segment with
  | word piece =>
      rw [Segment.chars] at plain ⊢
      have lowered := isRecasing_toLower.spells plain
      rw [Segment.token, Token.camel, String.toList_ofList, Text.lower_eq_map plain.ascii]
      exact lowered.trans (spells_capitalize lowered.plain)
  | initialism piece =>
      rw [Segment.chars] at plain ⊢
      have raised := isRecasing_toUpper.spells plain
      rw [← Text.upper_eq_map plain.ascii] at raised
      simpa [Segment.token, Token.camel, Token.text] using raised
  | symbol mark => exact spells_self plain

structure IsStyle (style : List Char → List Char) (shift : Char → Char) : Prop where
  recasing : IsRecasing shift
  styled : ∀ {spelled : Char → Char} {text : List Char}, IsRecasing spelled →
    (∀ c ∈ text, c.toNat < 128) → style (text.map spelled) = text.map shift

theorem isStyle_lower : IsStyle Text.lower Char.toLower :=
  ⟨isRecasing_toLower, IsRecasing.lower_map⟩

theorem isStyle_upper : IsStyle Text.upper Char.toUpper :=
  ⟨isRecasing_toUpper, IsRecasing.upper_map⟩

section

variable {style : List Char → List Char} {shift : Char → Char}

theorem IsStyle.text_eq (isStyle : IsStyle style shift) {segment : Segment}
    (plain : IsPlain segment.chars) : style segment.token.text = segment.chars.map shift := by
  obtain ⟨spelled, recased, text⟩ := Segment.exists_recasing plain.ascii
  rw [text, isStyle.styled recased plain.ascii]

theorem IsStyle.spells_text (isStyle : IsStyle style shift) {segment : Segment}
    (plain : IsPlain segment.chars) : Spells segment.chars (style segment.token.text) := by
  rw [isStyle.text_eq plain]
  exact isStyle.recasing.spells plain

structure Shows (style : List Char → List Char) (token : Token) : Prop where
  nonempty : style token.text ≠ []
  plain : IsPlain (style token.text)
  alphanumeric : token.isSymbol = false → ∀ c ∈ style token.text, isAlphanumeric c = true

theorem Shows.not_mem {token : Token} (shows : Shows style token) : '_' ∉ style token.text := by
  intro member
  exact absurd (shows.plain.separate _ member) (by decide)

theorem IsStyle.shows (isStyle : IsStyle style shift) {initialisms : Initialisms}
    {segment : Segment} (sound : segment.IsSound initialisms) (plain : IsPlain segment.chars) :
    Shows style segment.token where
  nonempty := by
    rw [isStyle.text_eq plain, Ne, List.map_eq_nil_iff]
    exact sound.stands.ne_nil
  plain := (isStyle.spells_text plain).plain
  alphanumeric word := by
    rw [isStyle.text_eq plain]
    apply isStyle.recasing.map_alphanumeric plain.ascii
    cases segment with
    | word piece => exact sound.2.1
    | initialism piece => exact sound.2.1
    | symbol mark => contradiction

theorem snake_cons (style : List Char → List Char) (token : Token) (rest : List Token) :
    ∃ more, snake style (token :: rest) = style token.text ++ more := by
  cases rest with
  | nil => exact ⟨[], by simp [snake]⟩
  | cons next rest => exact ⟨_, by rw [snake, List.append_assoc]⟩

theorem filter_snake {parts : List Token} (shows : ∀ token ∈ parts, Shows style token) :
    (snake style parts).filter (· != '_') = parts.flatMap fun token => style token.text := by
  fun_induction snake style parts with
  | case1 => rfl
  | case2 token => simpa using (shows token (by simp)).plain.filter_eq
  | case3 token next rest joint ih =>
      obtain ⟨here, later⟩ := List.forall_mem_cons.mp shows
      have dropped : joint.filter (· != '_') = [] := by
        simp only [joint]
        split <;> rfl
      rw [List.filter_append, List.filter_append, here.plain.filter_eq, dropped, List.append_nil,
        ih later]
      rfl

theorem exists_between {front back left right : List Char} {mark : Char} (absent : mark ∉ front)
    (split : front ++ back = left ++ mark :: right) :
    ∃ between, left = front ++ between ∧ back = between ++ mark :: right := by
  rcases List.append_eq_append_iff.mp split with ⟨between, rfl, rest⟩ | ⟨between, rfl, rest⟩
  · exact ⟨between, rfl, rest⟩
  · cases between with
    | nil => exact ⟨[], by simp, by simpa using rest.symm⟩
    | cons c between =>
        obtain ⟨rfl, -⟩ := List.cons.inj rest
        simp at absent

structure AreWords (left right : List Char) : Prop where
  last : ∃ c ∈ left.getLast?, isAlphanumeric c = true
  first : ∃ c ∈ right.head?, isAlphanumeric c = true

theorem AreWords.prepend {left right : List Char} (words : AreWords left right)
    (front : List Char) : AreWords (front ++ left) right where
  last := by
    obtain ⟨c, last, letter⟩ := words.last
    exact ⟨c, List.mem_getLast?_append_of_mem_getLast? last, letter⟩
  first := words.first

theorem areWords_of_shows {token next : Token} (here : Shows style token)
    (beyond : Shows style next) (apart : ¬(token.isSymbol || next.isSymbol) = true)
    (rest : List Token) : AreWords (style token.text) (snake style (next :: rest)) := by
  obtain ⟨word, another⟩ : token.isSymbol = false ∧ next.isSymbol = false := by
    simpa using apart
  constructor
  · refine ⟨(style token.text).getLast here.nonempty, ?_, ?_⟩
    · exact List.getLast?_eq_some_getLast here.nonempty
    · exact here.alphanumeric word _ (List.getLast_mem _)
  · obtain ⟨more, shown⟩ := snake_cons style next rest
    refine ⟨(style next.text).head beyond.nonempty, ?_, ?_⟩
    · simp [shown, List.head?_eq_some_head beyond.nonempty]
    · exact beyond.alphanumeric another _ (List.head_mem _)

theorem snake_areWords {parts : List Token} (shows : ∀ token ∈ parts, Shows style token)
    {left right : List Char} (split : snake style parts = left ++ '_' :: right) :
    AreWords left right := by
  induction parts generalizing left with
  | nil => simp [snake] at split
  | cons token rest ih =>
      obtain ⟨here, later⟩ := List.forall_mem_cons.mp shows
      cases rest with
      | nil =>
          rw [snake] at split
          exact absurd (by simp [split]) here.not_mem
      | cons next rest =>
          rw [snake, List.append_assoc] at split
          obtain ⟨between, rfl, following⟩ := exists_between here.not_mem split
          by_cases adjacent : (token.isSymbol || next.isSymbol) = true
          · rw [if_pos adjacent, List.nil_append] at following
            exact (ih later following).prepend _
          · rw [if_neg adjacent, List.singleton_append] at following
            cases between with
            | nil =>
                obtain ⟨-, rfl⟩ := List.cons.inj following
                rw [List.append_nil]
                exact areWords_of_shows here (later next (by simp)) adjacent rest
            | cons c between =>
                obtain ⟨rfl, inside⟩ := List.cons.inj following
                rw [List.append_cons]
                exact (ih later inside).prepend _

end

theorem splitBy_cons_cons {α : Type} {related : α → α → Bool} {first second : α}
    {rest group : List α} {groups : List (List α)} (adjacent : related first second = true)
    (grouped : (second :: rest).splitBy related = group :: groups) :
    (first :: second :: rest).splitBy related = (first :: group) :: groups := by
  obtain ⟨joined, nonempty, chained, apart⟩ := List.splitBy_eq_iff.mp grouped
  rw [List.mem_cons, not_or] at nonempty
  obtain ⟨c, group, rfl⟩ := List.exists_cons_of_ne_nil (Ne.symm nonempty.1)
  obtain ⟨rfl, -⟩ := List.cons.inj joined
  rw [List.forall_mem_cons] at chained
  refine List.splitBy_eq_iff.mpr ⟨?_, ?_, ?_, ?_⟩
  · rw [joined]
    rfl
  · simpa using nonempty.2
  · rw [List.forall_mem_cons]
    exact ⟨List.isChain_cons_cons.mpr ⟨adjacent, chained.1⟩, chained.2⟩
  · cases groups with
    | nil => exact List.isChain_singleton _
    | cons next groups =>
        obtain ⟨⟨_, filled, differs⟩, others⟩ := List.isChain_cons_cons.mp apart
        exact List.isChain_cons_cons.mpr ⟨⟨by simp, filled, by simpa using differs⟩, others⟩

def snakeGroups (parts : List Token) : List (List Token) :=
  parts.splitBy fun token next => token.isSymbol || next.isSymbol

theorem snake_eq_intercalate (style : List Char → List Char) (parts : List Token) :
    snake style parts =
      ['_'].intercalate ((snakeGroups parts).map fun group =>
        group.flatMap fun token => style token.text) := by
  fun_induction snake style parts with
  | case1 => rfl
  | case2 token => simp [snakeGroups, List.splitBy, List.splitBy.loop]
  | case3 token next rest joint ih =>
      obtain ⟨group, groups, grouped⟩ : ∃ group groups,
          snakeGroups (next :: rest) = group :: groups := by
        apply List.exists_cons_of_ne_nil
        exact List.splitBy_ne_nil.mpr (by simp)
      rw [grouped] at ih
      by_cases adjacent : (token.isSymbol || next.isSymbol) = true
      · have longer : snakeGroups (token :: next :: rest) = (token :: group) :: groups :=
          splitBy_cons_cons adjacent grouped
        rw [ih, longer]
        simp only [joint, if_pos adjacent, List.append_nil]
        cases groups <;> simp
      · have apart : snakeGroups (token :: next :: rest) = [token] :: group :: groups := by
          rw [← grouped]
          exact List.splitBy_append_cons rest (l := [token]) (by simpa using adjacent)
        rw [ih, apart]
        simp [joint, if_neg adjacent]

/-- The text shows the tokens with one underscore between two words that follow each other, and with
no other underscore. -/
structure JoinsWords (style : List Char → List Char) (parts : List Token) (text : List Char) :
    Prop where
  joined : text = ['_'].intercalate ((snakeGroups parts).map fun group =>
    group.flatMap fun token => style token.text)
  plain : ∀ token ∈ parts, style token.text ≠ [] ∧ '_' ∉ style token.text
  /-- No underscore stands first, last, beside another one or beside a symbol. -/
  flanked : ∀ left right, text = left ++ '_' :: right → AreWords left right

theorem snake_joinsWords {style : List Char → List Char} {parts : List Token}
    (shows : ∀ token ∈ parts, Shows style token) : JoinsWords style parts (snake style parts) where
  joined := snake_eq_intercalate style parts
  plain token member := ⟨(shows token member).nonempty, (shows token member).not_mem⟩
  flanked _ _ split := snake_areWords shows split

namespace Identifier

section

variable {raw : String} {initialisms : Initialisms}

theorem isPlain_of_mem_segments (ascii : ∀ c ∈ raw.toList, c.toNat < 128) {segment : Segment}
    (placed : segment ∈ segments initialisms raw.toList) : IsPlain segment.chars :=
  ⟨fun c spelled => ascii c (mem_of_mem_segments placed spelled).1,
    fun _ spelled => (mem_of_mem_segments placed spelled).2⟩

theorem tokens_shows (ascii : ∀ c ∈ raw.toList, c.toNat < 128) {style : List Char → List Char}
    {shift : Char → Char} (isStyle : IsStyle style shift) :
    ∀ token ∈ (parse raw initialisms).tokens, Shows style token := by
  intro token member
  obtain ⟨segment, placed, rfl⟩ := List.mem_map.mp member
  exact isStyle.shows (isSound_of_mem_segments placed) (isPlain_of_mem_segments ascii placed)

theorem spells_upperCamel (ascii : ∀ c ∈ raw.toList, c.toNat < 128) :
    Spells (raw.toList.filter fun c => !isSeparator c)
      (parse raw initialisms).upperCamel.toList := by
  rw [toList_upperCamel_parse, ← segments_chars initialisms]
  exact .flatMap fun segment placed =>
    Segment.spells_camel (isPlain_of_mem_segments ascii placed)

theorem spells_lowerCamel (ascii : ∀ c ∈ raw.toList, c.toNat < 128) :
    Spells (raw.toList.filter fun c => !isSeparator c)
      (parse raw initialisms).lowerCamel.toList := by
  have plain : ∀ segment ∈ segments initialisms raw.toList, IsPlain segment.chars :=
    fun segment placed => isPlain_of_mem_segments ascii placed
  rw [← segments_chars initialisms, lowerCamel, parse, Naming.tokens]
  generalize segments initialisms raw.toList = parts at plain ⊢
  cases parts with
  | nil => exact spells_self ⟨by simp, by simp⟩
  | cons first rest =>
      obtain ⟨here, later⟩ := List.forall_mem_cons.mp plain
      simp only [List.map_cons, String.toList_ofList, List.flatMap_map]
      refine (isStyle_lower.spells_text here).append (.flatMap fun segment placed => ?_)
      exact Segment.spells_camel (later segment placed)

theorem spells_snake (ascii : ∀ c ∈ raw.toList, c.toNat < 128) {style : List Char → List Char}
    {shift : Char → Char} (isStyle : IsStyle style shift) :
    Spells (raw.toList.filter fun c => !isSeparator c)
      ((snake style (parse raw initialisms).tokens).filter (· != '_')) := by
  rw [filter_snake (tokens_shows ascii isStyle), parse, Naming.tokens, List.flatMap_map,
    ← segments_chars initialisms]
  exact .flatMap fun segment placed =>
    isStyle.spells_text (isPlain_of_mem_segments ascii placed)

end

/-- All styles spell the name without its separators, and in snake case an underscore stands between
two words that follow each other and nowhere else. -/
theorem parse_styles (raw : String) (initialisms : Initialisms)
    (ascii : ∀ c ∈ raw.toList, c.toNat < 128) :
    (∀ style ∈ [upperCamel, lowerCamel, lowerSnake, upperSnake],
      Text.lower ((style (parse raw initialisms)).toList.filter (· != '_')) =
        Text.lower (raw.toList.filter fun c => !isSeparator c)) ∧
    JoinsWords Text.lower (parse raw initialisms).tokens
      (parse raw initialisms).lowerSnake.toList ∧
    JoinsWords Text.upper (parse raw initialisms).tokens
      (parse raw initialisms).upperSnake.toList := by
  have letters : ∀ c ∈ raw.toList.filter (fun c => !isSeparator c), c.toNat < 128 :=
    fun c member => ascii c (List.mem_of_mem_filter member)
  have camel : ∀ {text : List Char}, Spells (raw.toList.filter fun c => !isSeparator c) text →
      Text.lower (text.filter (· != '_')) =
        Text.lower (raw.toList.filter fun c => !isSeparator c) := by
    intro text spells
    rw [spells.plain.filter_eq, spells.lower_eq letters]
  refine ⟨?_, ?_, ?_⟩
  · simp only [List.forall_mem_cons, List.not_mem_nil, false_imp_iff, implies_true, and_true]
    refine ⟨camel (spells_upperCamel ascii), camel (spells_lowerCamel ascii), ?_, ?_⟩
    · rw [lowerSnake, String.toList_ofList]
      exact (spells_snake ascii isStyle_lower).lower_eq letters
    · rw [upperSnake, String.toList_ofList]
      exact (spells_snake ascii isStyle_upper).lower_eq letters
  · rw [lowerSnake, String.toList_ofList]
    exact snake_joinsWords (tokens_shows ascii isStyle_lower)
  · rw [upperSnake, String.toList_ofList]
    exact snake_joinsWords (tokens_shows ascii isStyle_upper)

theorem vehicleName_styles :
    (∀ c ∈ "H2OTank.gps-Fix2".toList, c.toNat < 128) ∧
      (parse "H2OTank.gps-Fix2" vehicleInitialisms).lowerCamel = "h2oTank.GPSFix2" ∧
      (parse "H2OTank.gps-Fix2" vehicleInitialisms).upperSnake = "H2O_TANK.GPS_FIX2" ∧
      Text.lower ("h2oTank.GPSFix2".toList.filter (· != '_')) = "h2otank.gpsfix2".toList ∧
      Text.lower ("H2O_TANK.GPS_FIX2".toList.filter (· != '_')) = "h2otank.gpsfix2".toList ∧
      snakeGroups (parse "H2OTank.gps-Fix2" vehicleInitialisms).tokens =
        [[.initialism "H2O"], [.word "tank", .symbol '.', .initialism "GPS"], [.word "fix2"]] ∧
      JoinsWords Text.upper (parse "H2OTank.gps-Fix2" vehicleInitialisms).tokens
        "H2O_TANK.GPS_FIX2".toList := by
  have read : (parse "H2OTank.gps-Fix2" vehicleInitialisms).tokens =
      [.initialism "H2O", .word "tank", .symbol '.', .initialism "GPS", .word "fix2"] := by
    simp only [parse, String.reduceToList]
    decide +kernel
  have camel : (parse "H2OTank.gps-Fix2" vehicleInitialisms).lowerCamel = "h2oTank.GPSFix2" := by
    rw [lowerCamel, read]
    decide +kernel
  have capital : (parse "H2OTank.gps-Fix2" vehicleInitialisms).upperSnake =
      "H2O_TANK.GPS_FIX2" := by
    rw [upperSnake, read]
    decide +kernel
  have ascii : ∀ c ∈ "H2OTank.gps-Fix2".toList, c.toNat < 128 := by simp
  have letters : Text.lower ("H2OTank.gps-Fix2".toList.filter fun c => !isSeparator c) =
      "h2otank.gpsfix2".toList := by
    simp only [String.reduceToList]
    decide +kernel
  obtain ⟨spelled, _, joined⟩ := parse_styles _ vehicleInitialisms ascii
  have small := spelled lowerCamel (by simp)
  have large := spelled upperSnake (by simp)
  rw [camel, letters] at small
  rw [capital, letters] at large
  rw [capital] at joined
  refine ⟨ascii, camel, capital, small, large, ?_, joined⟩
  rw [read]
  decide +kernel

end Identifier

end BindingPress.Naming
