import BindingPress.Template.Whitespace

/-!
How a template source is cut into text and tags, said without the search for openings and closings:
a scan is that of its source exactly when no text opens a tag too early, every tag closes at its
end and not before, and only the last may fail to close.
-/

namespace BindingPress.Template

theorem TagKind.ofMark?_eq_some {mark : Char} {kind : TagKind} :
    ofMark? mark = some kind ↔ mark = kind.openMark := by
  constructor
  · intro found
    have matched := List.find?_some found
    exact (beq_iff_eq.mp matched).symm
  · rintro rfl
    cases kind <;> rfl

theorem opening?_eq_some {source body : List Char} {kind : TagKind} :
    opening? source = some (kind, body) ↔ source = tagText kind body := by
  constructor
  · intro opened
    rw [opening?.eq_def] at opened
    split at opened
    next c mark rest =>
      split at opened
      next brace =>
        obtain ⟨found, marked, same⟩ := Option.map_eq_some_iff.mp opened
        obtain ⟨rfl, rfl⟩ := Prod.mk.inj same
        rw [tagText, brace, TagKind.ofMark?_eq_some.mp marked]
      next => contradiction
    next => contradiction
  · rintro rfl
    rw [tagText, opening?, if_pos rfl, TagKind.ofMark?_eq_some.mpr rfl]
    rfl

theorem opening?_eq_none_congr (c : Char) (text rest : List Char) :
    opening? (c :: (text ++ openBrace :: rest)) = none ↔
      opening? (c :: (text ++ [openBrace])) = none := by
  cases text with
  | nil => simp [opening?]
  | cons mark text => simp [opening?]

theorem openTag?_cons_eq_none {c : Char} {rest : List Char} :
    openTag? (c :: rest) = none ↔ opening? (c :: rest) = none ∧ openTag? rest = none := by
  rw [openTag?]
  cases opening? (c :: rest) <;> simp

/-- No tag opens anywhere in a text, also not together with a brace that follows it. -/
def ClearOfTags (text : List Char) : Prop :=
  openTag? (text ++ [openBrace]) = none

theorem clearOfTags_nil : ClearOfTags [] := rfl

theorem clearOfTags_cons {c : Char} {text : List Char} :
    ClearOfTags (c :: text) ↔ opening? (c :: (text ++ [openBrace])) = none ∧ ClearOfTags text :=
  openTag?_cons_eq_none

theorem openTag?_append {text : List Char} (clear : ClearOfTags text) (kind : TagKind)
    (body : List Char) : openTag? (text ++ tagText kind body) = some (text, kind, body) := by
  induction text with
  | nil =>
      have opened : opening? (tagText kind body) = some (kind, body) := opening?_eq_some.mpr rfl
      rw [List.nil_append, tagText, openTag?, ← tagText, opened]
  | cons c text ih =>
      obtain ⟨unopened, clear⟩ := clearOfTags_cons.mp clear
      rw [← opening?_eq_none_congr c text (kind.openMark :: body), ← tagText] at unopened
      rw [List.cons_append, openTag?, unopened, ih clear]
      rfl

theorem openTag?_sound {source text body : List Char} {kind : TagKind}
    (found : openTag? source = some (text, kind, body)) :
    ClearOfTags text ∧ source = text ++ tagText kind body := by
  induction source generalizing text with
  | nil => simp [openTag?] at found
  | cons c rest ih =>
      rw [openTag?] at found
      cases opened : opening? (c :: rest) with
      | some first =>
          obtain ⟨firstKind, firstBody⟩ := first
          rw [opened] at found
          cases found
          exact ⟨clearOfTags_nil, opening?_eq_some.mp opened⟩
      | none =>
          rw [opened] at found
          obtain ⟨⟨inner, innerKind, innerBody⟩, later, same⟩ := Option.map_eq_some_iff.mp found
          cases same
          obtain ⟨clear, rfl⟩ := ih later
          refine ⟨clearOfTags_cons.mpr ⟨?_, clear⟩, rfl⟩
          exact (opening?_eq_none_congr c inner (kind.openMark :: body)).mp opened

theorem openTag?_eq_none_of_within {front text back : List Char}
    (clear : openTag? (front ++ text ++ back) = none) : openTag? text = none := by
  have after : openTag? (text ++ back) = none := by
    induction front with
    | nil => exact clear
    | cons c front ih => exact ih (openTag?_cons_eq_none.mp clear).2
  clear clear
  induction text with
  | nil => rfl
  | cons c text ih =>
      obtain ⟨unopened, later⟩ := openTag?_cons_eq_none.mp after
      refine openTag?_cons_eq_none.mpr ⟨?_, ih later⟩
      cases text with
      | nil => rfl
      | cons mark text => simpa [opening?] using unopened

theorem clearOfTags_lineEnd {text : List Char} (clear : openTag? text = none)
    (ends : text.getLast? = some '\n') : ClearOfTags text := by
  induction text with
  | nil => exact clearOfTags_nil
  | cons c text ih =>
      obtain ⟨unopened, clear⟩ := openTag?_cons_eq_none.mp clear
      cases text with
      | nil =>
          have newline : c = '\n' := by simpa using ends
          rw [newline]
          rfl
      | cons next text =>
          refine clearOfTags_cons.mpr ⟨?_, ih clear (by simpa using ends)⟩
          simpa [opening?] using unopened

/-- What follows the opening of a tag, up to and with the closing. `quote` ends the string literal
that is open at the start, if there is one. -/
inductive Closes (kind : TagKind) : Option Char → List Char → Prop
  | closing : Closes kind none [kind.closeMark, closeBrace]
  | literal {c mark : Char} {rest : List Char} :
      Closes kind (if c = mark then none else some mark) rest → Closes kind (some mark) (c :: rest)
  | quote {c : Char} {rest : List Char} : (kind.hasLiterals && isQuote c) = true →
      Closes kind (some c) rest → Closes kind none (c :: rest)
  | plain {c next : Char} {rest : List Char} : (kind.hasLiterals && isQuote c) = false →
      ¬(c = kind.closeMark ∧ next = closeBrace) → Closes kind none (next :: rest) →
      Closes kind none (c :: next :: rest)

theorem TagKind.closeMark_not_quote (kind : TagKind) :
    (kind.hasLiterals && isQuote kind.closeMark) = false := by
  cases kind <;> decide

theorem Closes.length {kind : TagKind} {quote : Option Char} {inner : List Char}
    (closes : Closes kind quote inner) : 2 ≤ inner.length := by
  induction closes with
  | closing => exact Nat.le_refl 2
  | literal _ ih => exact Nat.le_succ_of_le ih
  | quote _ _ ih => exact Nat.le_succ_of_le ih
  | plain _ _ _ ih => exact Nat.le_succ_of_le ih

theorem Closes.getLast? {kind : TagKind} {quote : Option Char} {inner : List Char}
    (closes : Closes kind quote inner) : inner.getLast? = some closeBrace := by
  have longer : ∀ (c : Char) {rest : List Char}, rest.getLast? = some closeBrace →
      (c :: rest).getLast? = some closeBrace := by
    intro c rest last
    rw [List.getLast?_cons, last]
    rfl
  induction closes with
  | closing => rfl
  | literal _ ih => exact longer _ ih
  | quote _ _ ih => exact longer _ ih
  | plain _ _ _ ih => exact longer _ ih

theorem Closes.closeTag? {kind : TagKind} {quote : Option Char} {inner : List Char}
    (closes : Closes kind quote inner) (following : List Char) :
    closeTag? kind quote (inner ++ following) = some (inner, following) := by
  induction closes with
  | closing =>
      simp [Template.closeTag?, kind.closeMark_not_quote]
  | literal _ ih =>
      rw [List.cons_append, Template.closeTag?]
      simp [ih]
  | quote quoted _ ih =>
      rw [List.cons_append, Template.closeTag?.eq_def]
      simp [quoted, ih]
  | plain unquoted unclosed _ ih =>
      simp only [List.cons_append] at ih ⊢
      rw [Template.closeTag?]
      simp [unquoted, unclosed, ih]

theorem closes_of_closeTag? {kind : TagKind} {quote : Option Char} {source inner rest : List Char}
    (closed : closeTag? kind quote source = some (inner, rest)) :
    Closes kind quote inner ∧ source = inner ++ rest := by
  induction source generalizing quote inner with
  | nil => simp [closeTag?] at closed
  | cons c source ih =>
      have later : ∀ {quote' : Option Char}, (closeTag? kind quote' source).map
          (fun found => (c :: found.1, found.2)) = some (inner, rest) →
          ∃ body, inner = c :: body ∧ Closes kind quote' body ∧ source = body ++ rest := by
        intro quote' found
        obtain ⟨⟨body, following⟩, deeper, same⟩ := Option.map_eq_some_iff.mp found
        cases same
        exact ⟨body, rfl, ih deeper⟩
      rw [closeTag?.eq_def] at closed
      simp only at closed
      split at closed
      next mark =>
        obtain ⟨body, rfl, closes, rfl⟩ := later closed
        exact ⟨.literal closes, rfl⟩
      next =>
        split at closed
        next quoted =>
          obtain ⟨body, rfl, closes, rfl⟩ := later closed
          exact ⟨.quote quoted closes, rfl⟩
        next unquoted =>
          split at closed
          next next' following =>
            split at closed
            next closing =>
              cases closed
              obtain ⟨rfl, rfl⟩ : c = kind.closeMark ∧ next' = closeBrace := by simpa using closing
              exact ⟨.closing, rfl⟩
            next unclosed =>
              obtain ⟨body, rfl, closes, split⟩ := later closed
              cases body with
              | nil => exact absurd closes.length (by simp)
              | cons head body =>
                  obtain ⟨rfl, rfl⟩ := List.cons.inj split
                  exact ⟨.plain (by simpa using unquoted) (by simpa using unclosed) closes, rfl⟩
          next => contradiction

namespace Scan

def source : Scan → List Char
  | .text last => last
  | .unclosed before _ tail => before ++ tail
  | .tag before _ whole rest => before ++ whole ++ rest.source

def tags : Scan → List (List Char)
  | .text _ => []
  | .unclosed .. => []
  | .tag _ _ whole rest => whole :: rest.tags

def tail? : Scan → Option (List Char)
  | .text _ => none
  | .unclosed _ _ tail => some tail
  | .tag _ _ _ rest => rest.tail?

/-- Every tag opens where the text before it ends and closes where it ends itself. -/
def Sound : Scan → Prop
  | .text last => openTag? last = none
  | .unclosed before kind tail => ClearOfTags before ∧
      ∃ body, tail = tagText kind body ∧ closeTag? kind none body = none
  | .tag before kind whole rest => ClearOfTags before ∧
      (∃ inner, whole = tagText kind inner ∧ Closes kind none inner) ∧ rest.Sound

end Scan

theorem scan_sound (source : List Char) : (scan source).Sound ∧ (scan source).source = source := by
  fun_induction scan source with
  | case1 source opened => exact ⟨opened, rfl⟩
  | case2 source before kind body opened closed =>
      obtain ⟨clear, rfl⟩ := openTag?_sound opened
      exact ⟨⟨clear, body, rfl, closed⟩, rfl⟩
  | case3 source before kind body opened inner rest closed ih =>
      obtain ⟨clear, rfl⟩ := openTag?_sound opened
      obtain ⟨closes, rfl⟩ := closes_of_closeTag? closed
      refine ⟨⟨clear, ⟨inner, rfl, closes⟩, ih.1⟩, ?_⟩
      rw [Scan.source, ih.2]
      simp [tagText]

theorem scan_text {source : List Char} (unopened : openTag? source = none) :
    scan source = .text source := by
  rw [scan]
  split
  next => rfl
  next opened => simp [unopened] at opened

theorem scan_unclosed {before body : List Char} {kind : TagKind} (clear : ClearOfTags before)
    (unclosed : closeTag? kind none body = none) :
    scan (before ++ tagText kind body) = .unclosed before kind (tagText kind body) := by
  rw [scan]
  split
  next unopened => simp [openTag?_append clear] at unopened
  next opened =>
    rw [openTag?_append clear] at opened
    cases opened
    split
    next => rfl
    next closed => simp [unclosed] at closed

theorem scan_tag {before inner : List Char} {kind : TagKind} (clear : ClearOfTags before)
    (closes : Closes kind none inner) (rest : List Char) :
    scan (before ++ tagText kind inner ++ rest) =
      .tag before kind (tagText kind inner) (scan rest) := by
  have whole : before ++ tagText kind inner ++ rest = before ++ tagText kind (inner ++ rest) := by
    simp [tagText]
  rw [whole, scan]
  split
  next unopened => simp [openTag?_append clear] at unopened
  next opened =>
    rw [openTag?_append clear] at opened
    cases opened
    split
    next unclosed => simp [closes.closeTag?] at unclosed
    next closed =>
      rw [closes.closeTag?] at closed
      cases closed
      rfl

theorem Scan.Sound.scan_source {cut : Scan} (sound : cut.Sound) : scan cut.source = cut := by
  induction cut with
  | text last => exact scan_text sound
  | unclosed before kind tail =>
      obtain ⟨clear, body, rfl, unclosed⟩ := sound
      exact scan_unclosed clear unclosed
  | tag before kind whole rest ih =>
      obtain ⟨clear, ⟨inner, rfl, closes⟩, others⟩ := sound
      rw [source, scan_tag clear closes, ih others]

theorem Scan.Sound.tags_length {cut : Scan} (sound : cut.Sound) :
    4 * cut.tags.length ≤ cut.source.length := by
  induction cut with
  | text last => exact Nat.zero_le _
  | unclosed before kind tail => exact Nat.zero_le _
  | tag before kind whole rest ih =>
      obtain ⟨_, ⟨inner, rfl, closes⟩, others⟩ := sound
      have within := ih others
      have bound := closes.length
      simp only [tags, source, tagText, List.length_cons, List.length_append]
      omega

end BindingPress.Template
