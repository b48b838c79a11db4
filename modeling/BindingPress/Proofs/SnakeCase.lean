import BindingPress.Proofs.LetterCase
import BindingPress.Proofs.Spelling

/-!
Names in snake case are read as the tokens that they were made of. In capitals this holds as long as
no word has a letter right after a digit, since there a run of capitals is cut.
-/

namespace BindingPress.Naming

section

variable {initialisms : Initialisms}

theorem tokens_append (name rest : List Char)
    (boundary : ∀ c ∈ rest.head?, isAlphanumeric c = false) :
    tokens initialisms (name ++ rest) = tokens initialisms name ++ tokens initialisms rest := by
  rw [tokens, segments_append initialisms name rest boundary, List.map_append]
  rfl

theorem tokens_cons_mark {mark : Char} (other : isAlphanumeric mark = false) (rest : List Char) :
    tokens initialisms (mark :: rest) = tokens initialisms [mark] ++ tokens initialisms rest := by
  have unread : ¬isAlphanumeric mark = true := Bool.eq_false_iff.mp other
  by_cases separator : isSeparator mark = true
  · simp [tokens, segments, unread, separator]
  · simp [tokens, segments, unread, separator]

theorem Token.isSymbol_iff {token : Token} :
    token.isSymbol = true ↔ ∃ mark, token = .symbol mark := by
  cases token <;> simp [isSymbol]

/-- Written in this style, the token is read as it was. -/
structure IsStable (initialisms : Initialisms) (style : List Char → List Char) (token : Token) :
    Prop where
  reread : tokens initialisms (style token.text) = [token]
  mark : ∀ mark, token = .symbol mark → style [mark] = [mark] ∧ isAlphanumeric mark = false

variable {style : List Char → List Char}

theorem head?_snake {mark : Char} (kept : style [mark] = [mark]) (rest : List Token) :
    (snake style (.symbol mark :: rest)).head? = some mark := by
  cases rest with
  | nil => simp [snake, Token.text, kept]
  | cons next rest => simp [snake, Token.text, kept]

theorem tokens_snake {parts : List Token}
    (stable : ∀ token ∈ parts, IsStable initialisms style token) :
    tokens initialisms (snake style parts) = parts := by
  induction parts with
  | nil => rw [snake, tokens, segments, List.map_nil]
  | cons token rest ih =>
      obtain ⟨here, later⟩ := List.forall_mem_cons.mp stable
      cases rest with
      | nil => exact here.reread
      | cons next rest =>
          have following := ih later
          by_cases joined : (token.isSymbol || next.isSymbol) = true
          · have adjacent : snake style (token :: next :: rest) =
                style token.text ++ snake style (next :: rest) := by
              simp [snake, joined]
            rw [adjacent]
            rcases Bool.or_eq_true_iff.mp joined with first | second
            · obtain ⟨mark, rfl⟩ := Token.isSymbol_iff.mp first
              obtain ⟨kept, other⟩ := here.mark mark rfl
              have read := here.reread
              rw [Token.text, kept] at read ⊢
              rw [List.singleton_append, tokens_cons_mark other, read, following,
                List.singleton_append]
            · obtain ⟨mark, rfl⟩ := Token.isSymbol_iff.mp second
              obtain ⟨kept, other⟩ := (later _ (by simp)).mark mark rfl
              have boundary : ∀ c ∈ (snake style (.symbol mark :: rest)).head?,
                  isAlphanumeric c = false := by
                rw [head?_snake kept]
                simpa using other
              rw [tokens_append _ _ boundary, here.reread, following, List.singleton_append]
          · have apart : snake style (token :: next :: rest) =
                style token.text ++ '_' :: snake style (next :: rest) := by
              simp [snake, joined]
            have underscore : tokens initialisms ['_'] = [] :=
              tokens_eq_nil_iff.mpr (by simp; decide)
            rw [apart, tokens_append _ _ (by simp; decide), here.reread,
              tokens_cons_mark (by decide), underscore, following, List.nil_append,
              List.singleton_append]

end

def hasLetterAfterDigit : List Char → Bool
  | digit :: letter :: rest =>
      (digit.isDigit && letter.isAlpha) || hasLetterAfterDigit (letter :: rest)
  | _ => false

theorem ascii_toUpper : ∀ c : Char, c.toNat < 128 →
    Text.isLowercase c.toUpper = false ∧ Text.isNumeric c.toUpper = c.toLower.isDigit ∧
      Text.isUppercase c.toUpper = c.toLower.isAlpha := by
  apply Text.forall_ascii
  decide +kernel

theorem ascii_toLower : ∀ c : Char, c.toNat < 128 → Text.isUppercase c.toLower = false := by
  apply Text.forall_ascii
  decide +kernel

theorem casePieces_toLower {piece : List Char} (nonempty : piece ≠ [])
    (ascii : ∀ c ∈ piece, c.toNat < 128) :
    casePieces (piece.map Char.toLower) = [piece.map Char.toLower] := by
  apply casePieces_eq_singleton
  · simpa using nonempty
  · rw [List.forall_mem_map]
    exact fun c member => ascii_toLower c (ascii c member)

theorem casePieces_toUpper {piece : List Char} (nonempty : piece ≠ [])
    (ascii : ∀ c ∈ piece, c.toNat < 128)
    (apart : hasLetterAfterDigit (piece.map Char.toLower) = false) :
    casePieces (piece.map Char.toUpper) = [piece.map Char.toUpper] := by
  induction piece with
  | nil => contradiction
  | cons previous rest ih =>
      cases rest with
      | nil => rfl
      | cons current rest =>
          obtain ⟨first, later⟩ := List.forall_mem_cons.mp ascii
          rw [List.map_cons, List.map_cons, hasLetterAfterDigit, Bool.or_eq_false_iff] at apart
          have following := ih (by simp) later apart.2
          rw [List.map_cons] at following
          obtain ⟨small, digit, _⟩ := ascii_toUpper previous first
          obtain ⟨_, _, letter⟩ := ascii_toUpper current (later current (by simp))
          have next : (rest.map Char.toUpper).head?.any Text.isLowercase = false := by
            cases rest with
            | nil => rfl
            | cons c rest => exact (ascii_toUpper c (later c (by simp))).1
          have stays : startsPiece previous.toUpper current.toUpper
              (rest.map Char.toUpper).head? = false := by
            rw [startsPiece, small, digit, letter, next]
            simpa [Bool.and_comm] using apart.1
          rw [List.map_cons, List.map_cons, casePieces, if_neg (Bool.eq_false_iff.mp stays),
            following]

section

variable {initialisms : Initialisms} {shift : Char → Char}

theorem Segment.IsSound.tokens_map {segment : Segment} (sound : segment.IsSound initialisms)
    (recasing : IsRecasing shift) (ascii : ∀ c ∈ segment.chars, c.toNat < 128)
    (uncut : ∀ piece, segment = .word piece → casePieces (piece.map shift) = [piece.map shift]) :
    tokens initialisms (segment.chars.map shift) = [segment.token] := by
  cases segment with
  | word piece =>
      obtain ⟨nonempty, alphanumeric, uncovered⟩ := sound
      rw [Segment.chars] at ascii ⊢
      have text : Text.lower piece = piece.map Char.toLower := Text.lower_eq_map ascii
      have lowered : Alike piece (Text.lower piece) := by
        rw [text]
        exact isRecasing_toLower.alike ascii
      have free : AreFree initialisms [Text.lower piece] := by
        apply areFree_singleton
        · simpa [text] using nonempty
        · exact fun covered => uncovered (Alike.isCovered lowered.symm covered)
      have respells : Respells (Text.lower piece) (piece.map shift) := by
        refine ⟨lowered.symm.trans (recasing.alike ascii), ?_⟩
        rw [recasing.lower_map ascii, text]
      apply tokens_eq_words (recasing.map_alphanumeric ascii alphanumeric) ?_ free
      rw [uncut piece rfl]
      exact .cons respells .nil
  | initialism piece =>
      obtain ⟨nonempty, alphanumeric, held⟩ := sound
      rw [Segment.chars] at ascii ⊢
      have same : Alike piece (piece.map shift) := recasing.alike ascii
      rw [tokens, segments_of_alphanumeric (recasing.map_alphanumeric ascii alphanumeric),
        runSegments_eq_initialism (by simpa using nonempty) (same.contains_eq ▸ held),
        List.map_singleton, Segment.token, Segment.token, same.upper_eq]
  | symbol mark =>
      obtain ⟨other, plain⟩ := sound
      rw [Segment.chars] at ascii ⊢
      rw [List.map_singleton, recasing.mark mark (ascii mark (by simp)) other]
      simp [tokens, segments, other, plain, Segment.token]

theorem Segment.exists_recasing {segment : Segment} (ascii : ∀ c ∈ segment.chars, c.toNat < 128) :
    ∃ spelled, IsRecasing spelled ∧ segment.token.text = segment.chars.map spelled := by
  cases segment with
  | word piece =>
      refine ⟨Char.toLower, isRecasing_toLower, ?_⟩
      rw [Segment.token, Token.text, String.toList_ofList]
      exact Text.lower_eq_map ascii
  | initialism piece =>
      refine ⟨Char.toUpper, isRecasing_toUpper, ?_⟩
      rw [Segment.token, Token.text, String.toList_ofList]
      exact Text.upper_eq_map ascii
  | symbol mark => exact ⟨id, isRecasing_id, rfl⟩

theorem Segment.IsSound.isStable {style : List Char → List Char} {segment : Segment}
    (sound : segment.IsSound initialisms) (recasing : IsRecasing shift)
    (styled : ∀ {spelled : Char → Char} {text : List Char}, IsRecasing spelled →
      (∀ c ∈ text, c.toNat < 128) → style (text.map spelled) = text.map shift)
    (ascii : ∀ c ∈ segment.chars, c.toNat < 128)
    (uncut : ∀ piece, segment = .word piece → casePieces (piece.map shift) = [piece.map shift]) :
    IsStable initialisms style segment.token where
  reread := by
    obtain ⟨spelled, recased, text⟩ := Segment.exists_recasing ascii
    rw [text, styled recased ascii]
    exact sound.tokens_map recasing ascii uncut
  mark mark same := by
    cases segment with
    | word piece => contradiction
    | initialism piece => contradiction
    | symbol own =>
        cases same
        have kept := styled isRecasing_id ascii
        rw [List.map_id, Segment.chars, List.map_singleton,
          recasing.mark mark (ascii mark (by simp [Segment.chars])) sound.1] at kept
        exact ⟨kept, sound.1⟩

end

namespace Identifier

structure Agrees (name other : Identifier) : Prop where
  tokens : name.tokens = other.tokens
  upperCamel : name.upperCamel = other.upperCamel
  lowerCamel : name.lowerCamel = other.lowerCamel
  lowerSnake : name.lowerSnake = other.lowerSnake
  upperSnake : name.upperSnake = other.upperSnake

theorem agrees_of_tokens {name other : Identifier} (same : name.tokens = other.tokens) :
    name.Agrees other where
  tokens := same
  upperCamel := by rw [upperCamel, upperCamel, same]
  lowerCamel := by rw [lowerCamel, lowerCamel, same]
  lowerSnake := by rw [lowerSnake, lowerSnake, same]
  upperSnake := by rw [upperSnake, upperSnake, same]

theorem parse_snake_agrees {raw : String} {initialisms : Initialisms}
    {style : List Char → List Char}
    (stable : ∀ segment ∈ segments initialisms raw.toList,
      IsStable initialisms style segment.token) :
    (parse (String.ofList (snake style (parse raw initialisms).tokens)) initialisms).Agrees
      (parse raw initialisms) := by
  apply agrees_of_tokens
  have kept : ∀ token ∈ (parse raw initialisms).tokens, IsStable initialisms style token := by
    intro token member
    obtain ⟨segment, placed, rfl⟩ := List.mem_map.mp member
    exact stable segment placed
  rw [parse, String.toList_ofList]
  exact tokens_snake kept

/-- A name that is read from its snake case is the same name. -/
theorem parse_snakeCase (raw : String) (initialisms : Initialisms)
    (ascii : ∀ c ∈ raw.toList, c.toNat < 128) :
    (parse (parse raw initialisms).lowerSnake initialisms).Agrees (parse raw initialisms) ∧
      ((∀ text, .word text ∈ (parse raw initialisms).tokens →
          hasLetterAfterDigit text.toList = false) →
        (parse (parse raw initialisms).upperSnake initialisms).Agrees (parse raw initialisms)) := by
  have spelled : ∀ segment ∈ segments initialisms raw.toList,
      ∀ c ∈ segment.chars, c.toNat < 128 :=
    fun segment member c placed => ascii c (mem_of_mem_segments member placed).1
  refine ⟨parse_snake_agrees ?_, fun apart => parse_snake_agrees ?_⟩
  · intro segment member
    have sound := isSound_of_mem_segments member
    refine sound.isStable isRecasing_toLower IsRecasing.lower_map (spelled segment member) ?_
    rintro piece rfl
    exact casePieces_toLower sound.1 (spelled _ member)
  · intro segment member
    have sound := isSound_of_mem_segments member
    refine sound.isStable isRecasing_toUpper IsRecasing.upper_map (spelled segment member) ?_
    rintro piece rfl
    have within : ∀ c ∈ piece, c.toNat < 128 := spelled _ member
    apply casePieces_toUpper sound.1 within
    have clear := apart _ (List.mem_map_of_mem member)
    rwa [String.toList_ofList, Text.lower_eq_map within] at clear

def vehicleInitialisms : Initialisms :=
  .ofList ["GPS", "h2o"]

theorem vehicleName_snakeCase :
    (∀ c ∈ "H2OTank.gps-Fix2".toList, c.toNat < 128) ∧
      (parse "H2OTank.gps-Fix2" vehicleInitialisms).tokens =
        [.initialism "H2O", .word "tank", .symbol '.', .initialism "GPS", .word "fix2"] ∧
      (parse "h2o_tank.gps_fix2" vehicleInitialisms).Agrees
        (parse "H2OTank.gps-Fix2" vehicleInitialisms) ∧
      (parse "H2O_TANK.GPS_FIX2" vehicleInitialisms).Agrees
        (parse "H2OTank.gps-Fix2" vehicleInitialisms) := by
  have read : (parse "H2OTank.gps-Fix2" vehicleInitialisms).tokens =
      [.initialism "H2O", .word "tank", .symbol '.', .initialism "GPS", .word "fix2"] := by
    simp only [parse, String.reduceToList]
    decide +kernel
  have small : (parse "H2OTank.gps-Fix2" vehicleInitialisms).lowerSnake =
      "h2o_tank.gps_fix2" := by
    rw [lowerSnake, read]
    decide +kernel
  have capital : (parse "H2OTank.gps-Fix2" vehicleInitialisms).upperSnake =
      "H2O_TANK.GPS_FIX2" := by
    rw [upperSnake, read]
    decide +kernel
  have ascii : ∀ c ∈ "H2OTank.gps-Fix2".toList, c.toNat < 128 := by simp
  obtain ⟨lower, upper⟩ := parse_snakeCase _ vehicleInitialisms ascii
  rw [small] at lower
  rw [capital] at upper
  refine ⟨ascii, read, lower, upper ?_⟩
  rw [read]
  intro text member
  have digits : text = "tank" ∨ text = "fix2" := by simpa using member
  rcases digits with rfl | rfl <;> decide +kernel

end Identifier

end BindingPress.Naming
