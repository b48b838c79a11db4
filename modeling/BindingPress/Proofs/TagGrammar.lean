import BindingPress.Bytes
import BindingPress.Proofs.TagScan
import Mathlib.Tactic.SplitIfs

/-!
Where a tag ends, as a grammar of its bytes. A tag is its opening, a body and its closing; quotes in
the body of a statement or an expression pair up to literals, and no closing starts in the body
outside of them. Characters beyond ASCII are made of bytes that are neither quotes nor marks, so the
search through the characters ends where the grammar of the bytes says.
-/

namespace BindingPress

namespace Bytes

theorem toList_loop_eq (bytes : ByteArray) (index : Nat) (read : List UInt8) :
    ByteArray.toList.loop bytes index read = read.reverse ++ bytes.data.toList.drop index := by
  fun_induction ByteArray.toList.loop bytes index read with
  | case1 index read below ih =>
      have bound : index < bytes.data.toList.length := below
      have next : bytes.get! index = bytes.data.toList[index] := by
        rw [ByteArray.get!, getElem!_pos bytes.data index below, Array.getElem_toList]
      rw [ih, List.drop_eq_getElem_cons bound, next, List.reverse_cons, List.append_assoc]
      rfl
  | case2 index read past =>
      have beyond : bytes.data.toList.length ≤ index := Nat.le_of_not_lt past
      rw [List.drop_eq_nil_of_le beyond, List.append_nil]

theorem ofText_ofList (text : List Char) :
    ofText (String.ofList text) = text.flatMap String.utf8EncodeChar := by
  rw [ofText, String.toUTF8_eq_toByteArray, String.toByteArray_ofList, ByteArray.toList,
    toList_loop_eq, List.utf8Encode, List.toList_data_toByteArray]
  rfl

theorem utf8EncodeChar_cases (c : Char) :
    c.toNat < 128 ∧ String.utf8EncodeChar c = [c.toUInt8] ∨
      128 ≤ c.toNat ∧ ∀ byte ∈ String.utf8EncodeChar c, 128 ≤ byte.toNat := by
  by_cases ascii : c.toNat < 128
  · refine .inl ⟨ascii, String.utf8EncodeChar_eq_singleton ?_⟩
    rw [Char.utf8Size_eq_one_iff, UInt32.le_iff_toNat_le]
    exact Nat.le_of_lt_succ ascii
  · have large : ¬c.val.toNat ≤ 127 := fun small => ascii (Nat.lt_succ_of_le small)
    refine .inr ⟨Nat.le_of_not_lt ascii, ?_⟩
    rw [String.utf8EncodeChar.eq_1, if_neg large]
    split_ifs
    all_goals
      simp only [List.forall_mem_cons, List.not_mem_nil, false_implies, implies_true, and_true,
        UInt8.toNat_ofNat']
      omega

theorem toNat_toUInt8 {c : Char} (ascii : c.toNat < 128) : c.toUInt8.toNat = c.toNat := by
  rw [Char.toUInt8, UInt32.toNat_toUInt8]
  exact Nat.mod_eq_of_lt (Nat.lt_trans ascii (by decide))

theorem toUInt8_inj {c d : Char} (first : c.toNat < 128) (second : d.toNat < 128) :
    c.toUInt8 = d.toUInt8 ↔ c = d := by
  constructor
  · intro same
    have codes : c.toNat = d.toNat := by rw [← toNat_toUInt8 first, ← toNat_toUInt8 second, same]
    rw [← Char.ofNat_toNat c, ← Char.ofNat_toNat d, codes]
  · rintro rfl
    rfl

end Bytes

namespace Template

section Grammar

def IsQuoteByte (byte : UInt8) : Prop :=
  byte = '\x22'.toUInt8 ∨ byte = '\x27'.toUInt8 ∨ byte = '\x60'.toUInt8

namespace TagKind

def opener (kind : TagKind) : Bytes :=
  [openBrace.toUInt8, kind.openMark.toUInt8]

def closer (kind : TagKind) : Bytes :=
  [kind.closeMark.toUInt8, closeBrace.toUInt8]

end TagKind

inductive BodyPart where
  | literal (quote : UInt8) (content : Bytes)
  | single (byte : UInt8)

def BodyPart.bytes : BodyPart → Bytes
  | literal quote content => quote :: (content ++ [quote])
  | single byte => [byte]

/-- A literal ends at the next quote like the one it starts with. Comments have no literals, and
quotes in them are bytes like all others. -/
inductive TagKind.Allows (kind : TagKind) : BodyPart → Prop
  | literal {quote : UInt8} {content : Bytes} : kind ≠ .comment → IsQuoteByte quote →
      quote ∉ content → Allows kind (.literal quote content)
  | single {byte : UInt8} : kind = .comment ∨ ¬IsQuoteByte byte → Allows kind (.single byte)

def bodyBytes (parts : List BodyPart) : Bytes :=
  parts.flatMap BodyPart.bytes

/-- The parts of a body that is not closed before its end: no closing starts at a byte outside of
literals. -/
structure IsBody (kind : TagKind) (parts : List BodyPart) : Prop where
  allowed : ∀ part ∈ parts, kind.Allows part
  unclosed : ∀ before byte after, parts = before ++ .single byte :: after →
    ¬kind.closer <+: byte :: (bodyBytes after ++ kind.closer)

def IsTag (kind : TagKind) (bytes : Bytes) : Prop :=
  ∃ parts, IsBody kind parts ∧ bytes = kind.opener ++ (bodyBytes parts ++ kind.closer)

end Grammar

section Steps

variable {kind : TagKind} {byte quote : UInt8} {bytes : Bytes} {parts : List BodyPart}

theorem isBody_nil (kind : TagKind) : IsBody kind [] where
  allowed := by simp
  unclosed := by simp

theorem isBody_cons {part : BodyPart} :
    IsBody kind (part :: parts) ↔
      kind.Allows part ∧
        (∀ byte, part = .single byte → ¬kind.closer <+: byte :: (bodyBytes parts ++ kind.closer)) ∧
        IsBody kind parts := by
  constructor
  · intro body
    refine ⟨body.allowed part List.mem_cons_self, ?_, ?_, ?_⟩
    · rintro byte rfl
      exact body.unclosed [] byte parts rfl
    · exact fun other member => body.allowed other (List.mem_cons_of_mem part member)
    · rintro before byte after rfl
      exact body.unclosed (part :: before) byte after rfl
  · rintro ⟨allowed, first, body⟩
    refine ⟨List.forall_mem_cons.mpr ⟨allowed, body.allowed⟩, ?_⟩
    intro before byte after split
    cases before with
    | nil =>
        obtain ⟨rfl, rfl⟩ := List.cons.inj split
        exact first byte rfl
    | cons _ before =>
        rw [List.cons_append] at split
        exact body.unclosed before byte after (List.cons.inj split).2

/-- What is left of a tag, from outside of its literals or from inside one that `quote` ends. -/
def IsRest (kind : TagKind) : Option UInt8 → Bytes → Prop
  | none, bytes => ∃ parts, IsBody kind parts ∧ bytes = bodyBytes parts ++ kind.closer
  | some quote, bytes => ∃ content parts, quote ∉ content ∧ IsBody kind parts ∧
      bytes = content ++ quote :: (bodyBytes parts ++ kind.closer)

theorem isTag_iff : IsTag kind (kind.opener ++ bytes) ↔ IsRest kind none bytes := by
  simp only [IsTag, IsRest, List.append_cancel_left_eq]

theorem IsRest.closer_suffix {state : Option UInt8} (rest : IsRest kind state bytes) :
    kind.closer <:+ bytes := by
  cases state with
  | none =>
      obtain ⟨parts, _, rfl⟩ := rest
      exact List.suffix_append _ _
  | some quote =>
      obtain ⟨content, parts, _, _, rfl⟩ := rest
      exact ⟨content ++ quote :: bodyBytes parts, by simp⟩

theorem isRest_inside_cons :
    IsRest kind (some quote) (byte :: bytes) ↔
      IsRest kind (if byte = quote then none else some quote) bytes := by
  constructor
  · rintro ⟨content, parts, absent, body, split⟩
    cases content with
    | nil =>
        obtain ⟨rfl, rfl⟩ := List.cons.inj split
        rw [if_pos rfl]
        exact ⟨parts, body, rfl⟩
    | cons first content =>
        obtain ⟨rfl, rfl⟩ := List.cons.inj split
        obtain ⟨differs, absent⟩ := List.ne_and_not_mem_of_not_mem_cons absent
        rw [if_neg (Ne.symm differs)]
        exact ⟨content, parts, absent, body, rfl⟩
  · by_cases same : byte = quote
    · rw [if_pos same, same]
      rintro ⟨parts, body, rfl⟩
      exact ⟨[], parts, List.not_mem_nil, body, rfl⟩
    · rw [if_neg same]
      rintro ⟨content, parts, absent, body, rfl⟩
      have stillAbsent : quote ∉ byte :: content :=
        List.not_mem_cons_of_ne_of_not_mem (Ne.symm same) absent
      exact ⟨byte :: content, parts, stillAbsent, body, rfl⟩

theorem closeMark_not_quoteByte (kind : TagKind) : ¬IsQuoteByte kind.closeMark.toUInt8 := by
  cases kind <;> simp [IsQuoteByte, TagKind.closeMark, Char.toUInt8]

theorem isRest_quote_cons (literals : kind ≠ .comment) (quoted : IsQuoteByte byte) :
    IsRest kind none (byte :: bytes) ↔ IsRest kind (some byte) bytes := by
  constructor
  · rintro ⟨parts, body, split⟩
    cases parts with
    | nil =>
        obtain ⟨rfl, _⟩ := List.cons.inj split
        exact absurd quoted (closeMark_not_quoteByte kind)
    | cons part parts =>
        obtain ⟨allowed, _, later⟩ := isBody_cons.mp body
        cases allowed with
        | @literal quote content _ _ absent =>
            obtain ⟨rfl, rfl⟩ := List.cons.inj split
            exact ⟨content, parts, absent, later, by simp [bodyBytes, List.flatMap]⟩
        | single plain =>
            obtain ⟨rfl, _⟩ := List.cons.inj split
            rcases plain with comment | unquoted
            · exact absurd comment literals
            · exact absurd quoted unquoted
  · rintro ⟨content, parts, absent, body, rfl⟩
    refine ⟨.literal byte content :: parts, isBody_cons.mpr ⟨?_, ?_, body⟩, ?_⟩
    · exact .literal literals quoted absent
    · exact fun _ single => nomatch single
    · simp [bodyBytes, BodyPart.bytes]

theorem isRest_plain_cons (plain : kind = .comment ∨ ¬IsQuoteByte byte) :
    IsRest kind none (byte :: bytes) ↔
      byte :: bytes = kind.closer ∨ ¬kind.closer <+: byte :: bytes ∧ IsRest kind none bytes := by
  constructor
  · rintro ⟨parts, body, split⟩
    cases parts with
    | nil => exact .inl split
    | cons part parts =>
        obtain ⟨allowed, unclosed, later⟩ := isBody_cons.mp body
        cases allowed with
        | literal literals quoted =>
            obtain ⟨rfl, _⟩ := List.cons.inj split
            rcases plain with comment | unquoted
            · exact absurd comment literals
            · exact absurd quoted unquoted
        | single =>
            obtain ⟨rfl, rfl⟩ := List.cons.inj split
            exact .inr ⟨unclosed _ rfl, parts, later, rfl⟩
  · rintro (closes | ⟨unclosed, parts, body, rfl⟩)
    · exact ⟨[], isBody_nil kind, closes⟩
    · refine ⟨.single byte :: parts, isBody_cons.mpr ⟨.single plain, ?_, body⟩, rfl⟩
      intro _ same
      cases same
      exact unclosed

end Steps

section Characters

variable {kind : TagKind} {c mark : Char} {bytes : Bytes}

theorem isQuote_iff (ascii : c.toNat < 128) : isQuote c = true ↔ IsQuoteByte c.toUInt8 := by
  have double : c.toUInt8 = '\x22'.toUInt8 ↔ c = '\x22' := Bytes.toUInt8_inj ascii (by decide)
  have single : c.toUInt8 = '\x27'.toUInt8 ↔ c = '\x27' := Bytes.toUInt8_inj ascii (by decide)
  have back : c.toUInt8 = '\x60'.toUInt8 ↔ c = '\x60' := Bytes.toUInt8_inj ascii (by decide)
  rw [IsQuoteByte, double, single, back]
  simp [isQuote, or_assoc]

theorem ascii_of_isQuote (quoted : isQuote c = true) : c.toNat < 128 := by
  obtain (rfl | rfl) | rfl : (c = '\x22' ∨ c = '\x27') ∨ c = '\x60' := by
    simpa [isQuote] using quoted
  all_goals decide

theorem TagKind.startsLiteral_iff (ascii : c.toNat < 128) :
    (kind.hasLiterals && isQuote c) = true ↔ kind ≠ .comment ∧ IsQuoteByte c.toUInt8 := by
  rw [← isQuote_iff ascii]
  cases kind <;> simp [hasLiterals]

theorem IsQuoteByte.toNat_lt {byte : UInt8} (quoted : IsQuoteByte byte) : byte.toNat < 128 := by
  rcases quoted with rfl | rfl | rfl <;> decide

theorem TagKind.closeMark_ascii (kind : TagKind) : kind.closeMark.toNat < 128 := by
  cases kind <;> decide

theorem isRest_high {state : Option UInt8}
    (quoted : ∀ quote, state = some quote → IsQuoteByte quote) {front : Bytes}
    (high : ∀ byte ∈ front, 128 ≤ byte.toNat) :
    IsRest kind state (front ++ bytes) ↔ IsRest kind state bytes := by
  induction front with
  | nil => rfl
  | cons byte front ih =>
      obtain ⟨first, others⟩ := List.forall_mem_cons.mp high
      rw [List.cons_append, ← ih others]
      cases state with
      | some quote =>
          have differs : byte ≠ quote := by
            rintro rfl
            have small := (quoted byte rfl).toNat_lt
            omega
          rw [isRest_inside_cons, if_neg differs]
      | none =>
          have unquoted : ¬IsQuoteByte byte := fun quoted => by
            have small := quoted.toNat_lt
            omega
          have unmarked : kind.closeMark.toUInt8 ≠ byte := by
            rintro rfl
            rw [Bytes.toNat_toUInt8 kind.closeMark_ascii] at first
            have small := kind.closeMark_ascii
            omega
          rw [isRest_plain_cons (.inr unquoted)]
          simp [TagKind.closer, unmarked, Ne.symm unmarked]

theorem isRest_inside_char (quoted : isQuote mark = true) :
    IsRest kind (some mark.toUInt8) (String.utf8EncodeChar c ++ bytes) ↔
      IsRest kind ((if c = mark then none else some mark).map Char.toUInt8) bytes := by
  have markAscii := ascii_of_isQuote quoted
  rcases Bytes.utf8EncodeChar_cases c with ⟨ascii, encoded⟩ | ⟨large, high⟩
  · rw [encoded, List.singleton_append, isRest_inside_cons]
    by_cases same : c = mark
    · rw [if_pos same, if_pos (congrArg _ same)]
      rfl
    · rw [if_neg same, if_neg (mt (Bytes.toUInt8_inj ascii markAscii).mp same)]
      rfl
  · have differs : c ≠ mark := by
      rintro rfl
      omega
    rw [if_neg differs]
    refine isRest_high ?_ high
    rintro _ ⟨⟩
    exact (isQuote_iff markAscii).mp quoted

theorem isRest_quote_char (starts : (kind.hasLiterals && isQuote c) = true) :
    IsRest kind none (String.utf8EncodeChar c ++ bytes) ↔
      IsRest kind (some c.toUInt8) bytes := by
  have ascii : c.toNat < 128 := ascii_of_isQuote (Bool.and_eq_true_iff.mp starts).2
  obtain ⟨literals, quoted⟩ := (TagKind.startsLiteral_iff ascii).mp starts
  rcases Bytes.utf8EncodeChar_cases c with ⟨_, encoded⟩ | ⟨large, _⟩
  · rw [encoded, List.singleton_append, isRest_quote_cons literals quoted]
  · omega

theorem isRest_plain_char (plain : (kind.hasLiterals && isQuote c) = false) :
    IsRest kind none (String.utf8EncodeChar c ++ bytes) ↔
      c = kind.closeMark ∧ bytes = [closeBrace.toUInt8] ∨
        ¬(c = kind.closeMark ∧ bytes.head? = some closeBrace.toUInt8) ∧
          IsRest kind none bytes := by
  rcases Bytes.utf8EncodeChar_cases c with ⟨ascii, encoded⟩ | ⟨large, high⟩
  · have outside : kind = .comment ∨ ¬IsQuoteByte c.toUInt8 := by
      by_cases comment : kind = .comment
      · exact .inl comment
      · refine .inr fun quoted => ?_
        rw [(TagKind.startsLiteral_iff ascii).mpr ⟨comment, quoted⟩] at plain
        contradiction
    have marked : c.toUInt8 = kind.closeMark.toUInt8 ↔ c = kind.closeMark :=
      Bytes.toUInt8_inj ascii kind.closeMark_ascii
    have starts : kind.closer <+: c.toUInt8 :: bytes ↔
        c = kind.closeMark ∧ bytes.head? = some closeBrace.toUInt8 := by
      rw [TagKind.closer, List.cons_prefix_cons, eq_comm, marked]
      cases bytes <;> simp [eq_comm]
    have closes : c.toUInt8 :: bytes = kind.closer ↔
        c = kind.closeMark ∧ bytes = [closeBrace.toUInt8] := by
      rw [TagKind.closer, List.cons.injEq, marked]
    rw [encoded, List.singleton_append, isRest_plain_cons outside, closes, starts]
  · have unmarked : c ≠ kind.closeMark := by
      rintro rfl
      have small := kind.closeMark_ascii
      omega
    rw [isRest_high (by simp) high]
    simp [unmarked]

end Characters

section Encoding

variable {kind : TagKind}

def encode (text : List Char) : Bytes :=
  Bytes.ofText (String.ofList text)

theorem encode_nil : encode [] = [] :=
  Bytes.ofText_ofList []

theorem encode_cons (c : Char) (text : List Char) :
    encode (c :: text) = String.utf8EncodeChar c ++ encode text := by
  rw [encode, encode, Bytes.ofText_ofList, Bytes.ofText_ofList, List.flatMap_cons]

theorem encode_append (first second : List Char) :
    encode (first ++ second) = encode first ++ encode second := by
  rw [encode, encode, encode, Bytes.ofText_ofList, Bytes.ofText_ofList, Bytes.ofText_ofList,
    List.flatMap_append]

theorem encode_head? {c : Char} {text : List Char} :
    (encode (c :: text)).head? = some closeBrace.toUInt8 ↔ c = closeBrace := by
  rw [encode_cons]
  rcases Bytes.utf8EncodeChar_cases c with ⟨ascii, encoded⟩ | ⟨large, high⟩
  · rw [encoded, List.singleton_append, List.head?_cons, Option.some_inj]
    exact Bytes.toUInt8_inj ascii (by decide)
  · constructor
    · intro first
      obtain ⟨byte, others, encoded⟩ := List.exists_cons_of_ne_nil (@String.utf8EncodeChar_ne_nil c)
      rw [encoded, List.cons_append, List.head?_cons, Option.some_inj] at first
      have set := high byte (by rw [encoded]; exact List.mem_cons_self)
      rw [first] at set
      exact absurd set (by decide)
    · rintro rfl
      exact absurd large (by decide)

theorem exists_closeBrace {text : List Char} (starts : [closeBrace.toUInt8] <+: encode text) :
    ∃ rest, text = closeBrace :: rest := by
  cases text with
  | nil => simp [encode_nil] at starts
  | cons c text =>
      obtain ⟨others, joined⟩ := starts
      have first : (encode (c :: text)).head? = some closeBrace.toUInt8 := by
        rw [← joined]
        rfl
      exact ⟨text, by rw [encode_head?.mp first]⟩

theorem isValid_encode (first second : List Char) :
    String.Pos.Raw.IsValid (String.ofList (first ++ second)) ⟨(encode first).length⟩ := by
  have size : (encode first).length = (String.ofList first).utf8ByteSize := by
    rw [encode, Bytes.ofText_ofList, String.utf8ByteSize, String.toByteArray_ofList,
      List.utf8Encode, List.size_toByteArray]
  rw [String.Pos.Raw.isValid_iff_exists_append, size]
  exact ⟨String.ofList first, String.ofList second, String.ofList_append, rfl⟩

theorem encode_closeBrace : encode [closeBrace] = [closeBrace.toUInt8] :=
  Bytes.ofText_ofList [closeBrace]

theorem encode_closing (kind : TagKind) : encode [kind.closeMark, closeBrace] = kind.closer := by
  rw [encode_cons, encode_closeBrace]
  cases kind <;> rfl

theorem encode_tagText (kind : TagKind) (body : List Char) :
    encode (tagText kind body) = kind.opener ++ encode body := by
  rw [tagText, encode_cons, encode_cons, ← List.append_assoc]
  cases kind <;> rfl

theorem isQuote_of_next {c mark other : Char} (quoted : isQuote mark = true)
    (next : (if c = mark then none else some mark) = some other) : isQuote other = true := by
  split at next
  next => contradiction
  next =>
    cases next
    exact quoted

theorem Closes.isRest {state : Option Char} {inner : List Char} (closes : Closes kind state inner)
    (quoted : ∀ mark, state = some mark → isQuote mark = true) :
    IsRest kind (state.map Char.toUInt8) (encode inner) := by
  induction closes with
  | closing => exact ⟨[], isBody_nil kind, encode_closing kind⟩
  | @literal c mark rest _ ih =>
      have markQuoted := quoted mark rfl
      rw [encode_cons, Option.map_some, isRest_inside_char markQuoted]
      exact ih fun other same => isQuote_of_next markQuoted same
  | @quote c rest starts _ ih =>
      rw [encode_cons, Option.map_none, isRest_quote_char starts]
      refine ih fun mark same => ?_
      cases same
      exact (Bool.and_eq_true_iff.mp starts).2
  | plain plain unclosed _ ih =>
      rw [encode_cons, Option.map_none, isRest_plain_char plain, encode_head?]
      exact .inr ⟨unclosed, ih nofun⟩

theorem exists_following {state : Option UInt8} {c : Char} {text : List Char} {bytes : Bytes}
    (within : bytes <+: encode (c :: text)) (rest : IsRest kind state bytes) :
    ∃ following, bytes = String.utf8EncodeChar c ++ following ∧ following <+: encode text := by
  rw [encode_cons] at within
  have ends := rest.closer_suffix
  rcases List.prefix_or_prefix_of_prefix within (List.prefix_append _ _) with shorter | longer
  · have inside : kind.closer <:+: String.utf8EncodeChar c := ends.isInfix.trans shorter.isInfix
    rcases Bytes.utf8EncodeChar_cases c with ⟨_, encoded⟩ | ⟨_, high⟩
    · rw [encoded] at inside
      exact absurd inside.length_le (by simp [TagKind.closer])
    · have brace : closeBrace.toUInt8 ∈ kind.closer := by simp [TagKind.closer]
      exact absurd (high _ (inside.subset brace)) (by decide)
  · obtain ⟨following, rfl⟩ := longer
    exact ⟨following, rfl, (List.prefix_append_right_inj _).mp within⟩

theorem closes_of_isRest (state : Option Char) {text : List Char} {bytes : Bytes}
    (quoted : ∀ mark, state = some mark → isQuote mark = true)
    (within : bytes <+: encode text) (rest : IsRest kind (state.map Char.toUInt8) bytes) :
    ∃ inner following, text = inner ++ following ∧ Closes kind state inner ∧
      bytes = encode inner := by
  induction text generalizing state bytes with
  | nil =>
      rw [encode_nil, List.prefix_nil] at within
      exact absurd rest.closer_suffix.length_le (by simp [within, TagKind.closer])
  | cons c text ih =>
      obtain ⟨later, rfl, onward⟩ := exists_following within rest
      cases state with
      | some mark =>
          have markQuoted := quoted mark rfl
          rw [Option.map_some, isRest_inside_char markQuoted] at rest
          obtain ⟨inner, following, rfl, closes, rfl⟩ :=
            ih _ (fun other same => isQuote_of_next markQuoted same) onward rest
          exact ⟨c :: inner, following, rfl, .literal closes, (encode_cons c inner).symm⟩
      | none =>
          rw [Option.map_none] at rest
          cases starts : kind.hasLiterals && isQuote c with
          | true =>
              have cQuoted : isQuote c = true := (Bool.and_eq_true_iff.mp starts).2
              rw [isRest_quote_char starts] at rest
              obtain ⟨inner, following, rfl, closes, rfl⟩ :=
                ih (some c) (by simpa using cQuoted) onward rest
              exact ⟨c :: inner, following, rfl, .quote starts closes, (encode_cons c inner).symm⟩
          | false =>
              rw [isRest_plain_char starts] at rest
              rcases rest with ⟨rfl, rfl⟩ | ⟨unclosed, rest⟩
              · obtain ⟨following, rfl⟩ := exists_closeBrace onward
                refine ⟨[kind.closeMark, closeBrace], following, rfl, .closing, ?_⟩
                rw [encode_cons, encode_closeBrace]
              · obtain ⟨inner, following, rfl, closes, rfl⟩ := ih none nofun onward rest
                cases inner with
                | nil => exact absurd closes.length (by simp)
                | cons next inner =>
                    rw [encode_head?] at unclosed
                    exact ⟨c :: next :: inner, following, rfl, .plain starts unclosed closes,
                      (encode_cons c _).symm⟩

end Encoding

section Size

variable {kind : TagKind} {body : List Char} {size : Nat}

def tagSize? (kind : TagKind) (body : List Char) : Option Nat :=
  (closeTag? kind none body).map fun closed => (encode (tagText kind closed.1)).length

theorem tagSize?_eq_some_iff :
    tagSize? kind body = some size ↔
      ∃ inner following, body = inner ++ following ∧ Closes kind none inner ∧
        (encode (tagText kind inner)).length = size := by
  rw [tagSize?, Option.map_eq_some_iff]
  constructor
  · rintro ⟨⟨inner, following⟩, closed, counted⟩
    obtain ⟨closes, split⟩ := closes_of_closeTag? closed
    exact ⟨inner, following, split, closes, counted⟩
  · rintro ⟨inner, following, rfl, closes, counted⟩
    exact ⟨(inner, following), closes.closeTag? following, counted⟩

theorem tagSize?_eq_some_iff_isTag :
    tagSize? kind body = some size ↔
      size ≤ (encode (tagText kind body)).length ∧
        IsTag kind ((encode (tagText kind body)).take size) := by
  rw [tagSize?_eq_some_iff]
  constructor
  · rintro ⟨inner, following, rfl, closes, rfl⟩
    have whole : encode (tagText kind (inner ++ following)) =
        encode (tagText kind inner) ++ encode following := by
      simp only [encode_tagText, encode_append, List.append_assoc]
    rw [whole, List.take_left, encode_tagText, isTag_iff]
    refine ⟨by simp, ?_⟩
    exact closes.isRest nofun
  · rintro ⟨bound, parts, tagBody, taken⟩
    have within : bodyBytes parts ++ kind.closer <+: encode body := by
      have start := List.take_prefix size (encode (tagText kind body))
      rw [taken, encode_tagText] at start
      exact (List.prefix_append_right_inj _).mp start
    obtain ⟨inner, following, split, closes, same⟩ :=
      closes_of_isRest none nofun within ⟨parts, tagBody, rfl⟩
    refine ⟨inner, following, split, closes, ?_⟩
    rw [encode_tagText, ← same, ← taken, List.length_take, Nat.min_eq_left bound]

/-- A tag ends at the first closing outside of its literals, and nowhere else. -/
theorem tagSize?_grammar (kind : TagKind) (body : List Char) :
    (∀ size, tagSize? kind body = some size ↔
      size ≤ (encode (tagText kind body)).length ∧
        IsTag kind ((encode (tagText kind body)).take size)) ∧
    (tagSize? kind body = none ↔ ∀ size ≤ (encode (tagText kind body)).length,
      ¬IsTag kind ((encode (tagText kind body)).take size)) ∧
    ∀ size, tagSize? kind body = some size →
      4 ≤ size ∧ String.Pos.Raw.IsValid (String.ofList (tagText kind body)) ⟨size⟩ := by
  refine ⟨fun size => tagSize?_eq_some_iff_isTag, ?_, ?_⟩
  · rw [Option.eq_none_iff_forall_ne_some]
    simp only [Ne, tagSize?_eq_some_iff_isTag, not_and]
  · intro size counted
    obtain ⟨inner, following, rfl, closes, rfl⟩ := tagSize?_eq_some_iff.mp counted
    have closing := (closes.isRest nofun).closer_suffix.length_le
    refine ⟨?_, isValid_encode (tagText kind inner) following⟩
    rw [encode_tagText, List.length_append]
    exact Nat.add_le_add (Nat.le_refl 2) closing

end Size

end Template
end BindingPress
