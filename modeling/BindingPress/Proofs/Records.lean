import BindingPress.Proofs.Readers

/-!
The records that bytes spell, said without the stack and the step counts that find them: a message
is a sequence of whole records, and a group is such a sequence between two marks. Records that are
put one after another are read one after another.
-/

namespace BindingPress.Wire

@[simp] theorem nextToken?_nil : nextToken? [] = none := rfl

theorem nextToken?_shorter {bytes next : Bytes} {token : Token}
    (found : nextToken? bytes = some (token, next)) : next.length < bytes.length :=
  nextToken?_takes.shorter nextToken?_nil found

theorem nextToken?_eq_record {bytes next : Bytes} {number : Nat} {content : Content} :
    nextToken? bytes = some (.record number content, next) ↔
      ∃ form after, key? bytes = some (⟨number, form⟩, after) ∧
        content? form after = some (content, next) := by
  simp only [nextToken?, Option.bind_eq_bind, Option.bind_eq_some_iff]
  constructor
  · rintro ⟨⟨⟨number, form⟩, after⟩, found, read⟩
    cases form with
    | opening | closing => simp [token?] at read
    | varint | fixed64 | chunk | fixed32 =>
        obtain ⟨⟨content, next⟩, given, same⟩ := Option.map_eq_some_iff.mp read
        obtain ⟨record, rfl⟩ := Prod.mk.inj same
        obtain ⟨rfl, rfl⟩ := Token.record.inj record
        exact ⟨_, after, found, given⟩
  · rintro ⟨form, after, found, given⟩
    refine ⟨⟨⟨number, form⟩, after⟩, found, ?_⟩
    cases form with
    | opening | closing => simp [content?] at given
    | varint | fixed64 | chunk | fixed32 => simp [token?, given]

theorem nextToken?_eq_opening {bytes next : Bytes} {number : Nat} :
    nextToken? bytes = some (.opening number, next) ↔
      key? bytes = some (⟨number, .opening⟩, next) := by
  simp only [nextToken?, Option.bind_eq_bind, Option.bind_eq_some_iff]
  constructor
  · rintro ⟨⟨⟨number, form⟩, after⟩, found, read⟩
    cases form <;> simp_all [token?]
  · intro found
    exact ⟨_, found, rfl⟩

theorem nextToken?_eq_closing {bytes next : Bytes} {number : Nat} :
    nextToken? bytes = some (.closing number, next) ↔
      key? bytes = some (⟨number, .closing⟩, next) := by
  simp only [nextToken?, Option.bind_eq_bind, Option.bind_eq_some_iff]
  constructor
  · rintro ⟨⟨⟨number, form⟩, after⟩, found, read⟩
    cases form <;> simp_all [token?]
  · intro found
    exact ⟨_, found, rfl⟩

theorem content?_eq_chunk {form : Form} {bytes content next : Bytes} :
    content? form bytes = some (.chunk content, next) ↔
      form = .chunk ∧ sized? bytes = some (content, next) := by
  cases form <;> simp [content?]

theorem varint_ne_nil (value : Nat) : varint value ≠ [] := by
  rw [varint]
  split <;> simp

theorem nextToken?_chunk {number : Nat} (valid : 0 < number) (bound : number * 8 + 2 < keyLimit)
    (content rest : Bytes) :
    nextToken? (chunk number content ++ rest) =
      if content.length < sizeLimit then some (.record number (.chunk content), rest)
      else none := by
  have spelled : chunk number content ++ rest =
      varint (number * 8 + 2) ++ (varint content.length ++ (content ++ rest)) := by
    simp [chunk]
  have keyBound : number * 8 + 2 < sizeLimit := by
    simp only [keyLimit] at bound
    simp only [sizeLimit]
    omega
  have form : (number * 8 + 2) % 8 = 2 := by omega
  have field : (number * 8 + 2) / 8 = number := by omega
  have allowed : ¬(decide (keyLimit ≤ number * 8 + 2) || decide (number = 0)) = true := by
    simp only [Bool.or_eq_true, decide_eq_true_eq]
    omega
  have key : key? (chunk number content ++ rest) =
      some (⟨number, .chunk⟩, varint content.length ++ (content ++ rest)) := by
    simp only [key?, spelled, varint?_varint, if_pos keyBound, Option.bind_eq_bind,
      Option.bind_some, form, field, Form.ofNumber?, if_neg allowed]
    rfl
  simp only [nextToken?, key, Option.bind_eq_bind, Option.bind_some, token?, content?,
    sized?_append]
  split <;> rfl

/-- The bytes start with these records, to their end or to the end of the group with a number, and
go on with the rest. -/
inductive Reads : (group : Option Nat) → Bytes → List Record → (rest : Bytes) → Prop
  | done : Reads none [] [] []
  | closed {bytes rest : Bytes} {number : Nat} :
      nextToken? bytes = some (.closing number, rest) → Reads (some number) bytes [] rest
  | record {group : Option Nat} {bytes next rest : Bytes} {number : Nat} {content : Content}
      {records : List Record} :
      nextToken? bytes = some (.record number content, next) → Reads group next records rest →
        Reads group bytes ((number, content) :: records) rest
  | group {group : Option Nat} {bytes after next rest : Bytes} {number : Nat}
      {inner records : List Record} :
      nextToken? bytes = some (.opening number, after) → Reads (some number) after inner next →
        Reads group next records rest → Reads group bytes ((number, .group inner) :: records) rest

namespace Reads

theorem unique {group : Option Nat} {bytes rest rest' : Bytes} {records records' : List Record}
    (first : Reads group bytes records rest) (second : Reads group bytes records' rest') :
    records = records' ∧ rest = rest' := by
  induction first generalizing records' rest' with
  | done =>
      cases second with
      | done => exact ⟨rfl, rfl⟩
      | record found | group found => simp at found
  | closed found =>
      cases second with
      | closed other | record other | group other => simp_all
  | record found following ih =>
      cases second with
      | done => simp at found
      | closed other | group other => simp_all
      | record other others =>
          rw [found] at other
          obtain ⟨same, rfl⟩ := Prod.mk.inj (Option.some.inj other)
          obtain ⟨rfl, rfl⟩ := Token.record.inj same
          obtain ⟨rfl, rfl⟩ := ih others
          exact ⟨rfl, rfl⟩
  | group found within following ihWithin ih =>
      cases second with
      | done => simp at found
      | closed other | record other => simp_all
      | group other inside others =>
          rw [found] at other
          obtain ⟨same, rfl⟩ := Prod.mk.inj (Option.some.inj other)
          obtain rfl := Token.opening.inj same
          obtain ⟨rfl, rfl⟩ := ihWithin inside
          obtain ⟨rfl, rfl⟩ := ih others
          exact ⟨rfl, rfl⟩

theorem extend {group : Option Nat} {bytes rest : Bytes} {records : List Record}
    (reads : Reads group bytes records rest) (inside : group.isSome = true) (more : Bytes) :
    Reads group (bytes ++ more) records (rest ++ more) := by
  induction reads with
  | done => simp at inside
  | closed found => exact .closed (nextToken?_takes.append found more)
  | record found following ih => exact .record (nextToken?_takes.append found more) (ih inside)
  | group found within following ihWithin ih =>
      exact .group (nextToken?_takes.append found more) (ihWithin rfl) (ih inside)

theorem append {group outer : Option Nat} {bytes rest more last : Bytes}
    {records others : List Record} (reads : Reads group bytes records rest)
    (outermost : group = none) (following : Reads outer more others last) :
    Reads outer (bytes ++ more) (records ++ others) last := by
  induction reads with
  | done => exact following
  | closed found => simp at outermost
  | record found _ ih => exact .record (nextToken?_takes.append found more) (ih outermost)
  | group found within _ ihWithin ih =>
      exact .group (nextToken?_takes.append found more) (within.extend rfl more) (ih outermost)

theorem record_iff {group : Option Nat} {bytes next rest : Bytes} {number : Nat}
    {content : Content} {records : List Record}
    (found : nextToken? bytes = some (.record number content, next)) :
    Reads group bytes records rest ↔
      ∃ others, records = (number, content) :: others ∧ Reads group next others rest := by
  constructor
  · intro reads
    cases reads with
    | done => simp at found
    | closed other | group other => simp [other] at found
    | record other following =>
        rw [other] at found
        obtain ⟨same, rfl⟩ := Prod.mk.inj (Option.some.inj found)
        obtain ⟨rfl, rfl⟩ := Token.record.inj same
        exact ⟨_, rfl, following⟩
  · rintro ⟨others, rfl, following⟩
    exact .record found following

theorem nextToken?_isSome {group : Option Nat} {bytes rest : Bytes} {records : List Record}
    (reads : Reads group bytes records rest) (nonempty : bytes ≠ []) :
    (nextToken? bytes).isSome = true := by
  cases reads with
  | done => exact absurd rfl nonempty
  | closed found | record found | group found => simp [found]

theorem chunk_iff {number : Nat} (valid : 0 < number) (bound : number * 8 + 2 < keyLimit)
    {group : Option Nat} {content rest last : Bytes} {records : List Record} :
    Reads group (chunk number content ++ rest) records last ↔
      content.length < sizeLimit ∧
        ∃ others, records = (number, .chunk content) :: others ∧ Reads group rest others last := by
  have next := nextToken?_chunk valid bound content rest
  by_cases fits : content.length < sizeLimit
  · rw [if_pos fits] at next
    simp only [fits, true_and]
    exact record_iff next
  · rw [if_neg fits] at next
    simp only [fits, false_and, iff_false]
    intro reads
    have some := reads.nextToken?_isSome (by simp [chunk, varint_ne_nil])
    simp [next] at some

theorem chunk_length {group : Option Nat} {bytes rest content : Bytes} {records : List Record}
    {number : Nat} (reads : Reads group bytes records rest)
    (member : (number, .chunk content) ∈ records) : content.length < sizeLimit := by
  induction reads with
  | done | closed => simp at member
  | record found following ih =>
      rcases List.mem_cons.mp member with same | later
      · obtain ⟨rfl, rfl⟩ := Prod.mk.inj same
        obtain ⟨form, after, _, given⟩ := nextToken?_eq_record.mp found
        exact sized?_length (content?_eq_chunk.mp given).2
      · exact ih later
  | group found within following ihWithin ih =>
      rcases List.mem_cons.mp member with same | later
      · simp at same
      · exact ih later

end Reads

/-- Reading completes what is open: the records of the innermost group, or of the message, and then
what lies around it. Records so far are newest first. -/
def Completes (records : List Record) (rest : Bytes) : Bytes → (group : Option Nat) →
    (current : List Record) → (enclosing : List (Option Nat × List Record)) → Prop
  | bytes, group, current, [] =>
      ∃ more, Reads group bytes more rest ∧ records = current.reverse ++ more
  | bytes, group, current, (outerGroup, outer) :: enclosing =>
      ∃ number inner next, group = some number ∧ Reads group bytes inner next ∧
        Completes records rest next outerGroup
          ((number, .group (current.reverse ++ inner)) :: outer) enclosing

section Completing

variable {records : List Record} {rest bytes next : Bytes} {group : Option Nat}
variable {current : List Record} {enclosing : List (Option Nat × List Record)}

theorem completes_cons {first : Record}
    (extends' : ∀ more last, Reads group next more last → Reads group bytes (first :: more) last)
    (completed : Completes records rest next group (first :: current) enclosing) :
    Completes records rest bytes group current enclosing := by
  cases enclosing with
  | nil =>
      obtain ⟨more, reads, rfl⟩ := completed
      exact ⟨first :: more, extends' more rest reads, by simp⟩
  | cons frame enclosing =>
      obtain ⟨number, inner, after, rfl, reads, completed⟩ := completed
      refine ⟨number, first :: inner, after, rfl, extends' inner after reads, ?_⟩
      simpa using completed

theorem completes_opening {number : Nat}
    (found : nextToken? bytes = some (.opening number, next))
    (completed : Completes records rest next (some number) [] ((group, current) :: enclosing)) :
    Completes records rest bytes group current enclosing := by
  obtain ⟨opened, inner, after, same, reads, completed⟩ := completed
  obtain rfl := Option.some.inj same
  exact completes_cons (fun more last following => .group found reads following) completed

theorem completes_closing {number : Nat} {outerGroup : Option Nat} {outer : List Record}
    (found : nextToken? bytes = some (.closing number, next))
    (completed : Completes records rest next outerGroup
      ((number, .group current.reverse) :: outer) enclosing) :
    Completes records rest bytes (some number) current ((outerGroup, outer) :: enclosing) :=
  ⟨number, [], next, rfl, .closed found, by simpa using completed⟩

end Completing

def openFrames : List (Nat × List Record) → Option Nat × List (Option Nat × List Record)
  | [] => (none, [])
  | (number, outer) :: enclosing =>
      (some number, ((openFrames enclosing).1, outer) :: (openFrames enclosing).2)

theorem tokensWithin_cons (steps : Nat) (byte : UInt8) (bytes : Bytes) :
    tokensWithin (steps + 1) (byte :: bytes) = (do
      let (token, rest) ← nextToken? (byte :: bytes)
      let others ← tokensWithin steps rest
      return token :: others) :=
  rfl

theorem tokensWithin_eq {steps : Nat} {bytes : Bytes} (enough : bytes.length ≤ steps) :
    tokensWithin steps bytes = tokens? bytes := by
  induction steps using Nat.strongRecOn generalizing bytes with
  | ind steps ih =>
      match steps, bytes with
      | _, [] => simp [tokens?, tokensWithin]
      | 0, byte :: bytes => simp at enough
      | steps + 1, byte :: bytes =>
          rw [tokens?, List.length_cons, tokensWithin_cons, tokensWithin_cons]
          cases found : nextToken? (byte :: bytes) with
          | none => rfl
          | some step =>
              have shorter := nextToken?_shorter found
              rw [List.length_cons] at shorter enough
              have first : tokensWithin steps step.2 = tokens? step.2 :=
                ih steps (by omega) (by omega)
              have second : tokensWithin bytes.length step.2 = tokens? step.2 :=
                ih bytes.length (by omega) (by omega)
              simp only [Option.bind_eq_bind, Option.bind_some, first, second]

theorem tokens?_eq_nil {bytes : Bytes} : tokens? bytes = some [] ↔ bytes = [] := by
  cases bytes with
  | nil => simp [tokens?, tokensWithin]
  | cons byte bytes => simp [tokens?, tokensWithin, Option.bind_eq_some_iff]

theorem tokens?_eq_cons {bytes : Bytes} {token : Token} {tokens : List Token} :
    tokens? bytes = some (token :: tokens) ↔
      ∃ next, nextToken? bytes = some (token, next) ∧ tokens? next = some tokens := by
  cases bytes with
  | nil => simp [tokens?, tokensWithin]
  | cons byte bytes =>
      rw [tokens?, List.length_cons, tokensWithin_cons]
      constructor
      · intro read
        obtain ⟨⟨first, next⟩, found, following⟩ := Option.bind_eq_some_iff.mp read
        obtain ⟨others, readOthers, same⟩ := Option.bind_eq_some_iff.mp following
        obtain ⟨rfl, rfl⟩ := List.cons.inj (Option.some.inj same)
        have shorter := nextToken?_shorter found
        rw [List.length_cons] at shorter
        rw [tokensWithin_eq (by omega)] at readOthers
        exact ⟨next, found, readOthers⟩
      · rintro ⟨next, found, readOthers⟩
        have shorter := nextToken?_shorter found
        rw [List.length_cons] at shorter
        rw [← tokensWithin_eq (by omega : next.length ≤ bytes.length)] at readOthers
        simp [found, readOthers]

theorem nest?_completes {bytes : Bytes} {tokens : List Token} {current records : List Record}
    {enclosing : List (Nat × List Record)} (read : tokens? bytes = some tokens)
    (nested : nest? tokens current enclosing = some records) :
    Completes records [] bytes (openFrames enclosing).1 current (openFrames enclosing).2 := by
  induction tokens generalizing bytes current enclosing with
  | nil =>
      obtain rfl := tokens?_eq_nil.mp read
      cases enclosing with
      | nil => exact ⟨[], .done, by simpa [nest?] using nested.symm⟩
      | cons frame enclosing => simp [nest?] at nested
  | cons token tokens ih =>
      obtain ⟨next, found, following⟩ := tokens?_eq_cons.mp read
      cases token with
      | record number content =>
          exact completes_cons (fun more last => .record found) (ih following nested)
      | opening number => exact completes_opening found (ih following nested)
      | closing number =>
          cases enclosing with
          | nil => simp [nest?] at nested
          | cons frame enclosing =>
              rw [nest?] at nested
              split at nested
              next same =>
                subst same
                exact completes_closing found (ih following nested)
              next => simp at nested

theorem groupWithin_completes {steps number : Nat} {bytes rest : Bytes}
    {current records : List Record} {enclosing : List (Nat × List Record)}
    (read : groupWithin steps number current enclosing bytes = some (records, rest)) :
    Completes records rest bytes (some number) current
      (enclosing.map fun frame => (some frame.1, frame.2)) := by
  induction steps generalizing number bytes current enclosing with
  | zero => simp [groupWithin] at read
  | succ steps ih =>
      obtain ⟨⟨token, next⟩, found, following⟩ := Option.bind_eq_some_iff.mp read
      cases token with
      | record field content =>
          exact completes_cons (fun more last => .record found) (ih following)
      | opening inner => exact completes_opening found (ih following)
      | closing closed =>
          by_cases different : closed ≠ number
          · simp [different] at following
          · obtain rfl := not_not.mp different
            cases enclosing with
            | nil =>
                simp only [ne_eq, not_true, if_false, Option.some.injEq, Prod.mk.injEq] at following
                obtain ⟨rfl, rfl⟩ := following
                exact ⟨[], .closed found, by simp⟩
            | cons frame enclosing =>
                simp only [ne_eq, not_true, if_false] at following
                exact completes_closing found (ih following)

theorem Reads.tokens {group : Option Nat} {bytes rest : Bytes} {records : List Record}
    (reads : Reads group bytes records rest) {after : List Token}
    (left : tokens? rest = some after) :
    ∃ tokens, tokens? bytes = some tokens ∧
      match group with
      | none => ∀ current enclosing,
          nest? tokens current enclosing = nest? after (records.reverse ++ current) enclosing
      | some number => ∀ current outer enclosing,
          nest? tokens current ((number, outer) :: enclosing) =
            nest? after ((number, .group (current.reverse ++ records)) :: outer) enclosing := by
  induction reads generalizing after with
  | done => exact ⟨after, left, fun current enclosing => by simp⟩
  | @closed bytes rest number found =>
      refine ⟨.closing number :: after, tokens?_eq_cons.mpr ⟨rest, found, left⟩, ?_⟩
      intro current outer enclosing
      simp [nest?]
  | @record group bytes next rest number content records found following ih =>
      obtain ⟨tokens, read, nests⟩ := ih left
      refine ⟨.record number content :: tokens, tokens?_eq_cons.mpr ⟨next, found, read⟩, ?_⟩
      cases group with
      | none =>
          intro current enclosing
          simp [nest?, nests]
      | some opened =>
          intro current outer enclosing
          simp [nest?, nests]
  | @group group bytes inside next rest number inner records found within following ihWithin ih =>
      obtain ⟨tokens, read, nests⟩ := ih left
      obtain ⟨innerTokens, innerRead, innerNests⟩ := ihWithin read
      refine ⟨.opening number :: innerTokens, tokens?_eq_cons.mpr ⟨inside, found, innerRead⟩, ?_⟩
      cases group with
      | none =>
          intro current enclosing
          simp [nest?, innerNests, nests]
      | some opened =>
          intro current outer enclosing
          simp [nest?, innerNests, nests]

theorem records?_eq_some {bytes : Bytes} {records : List Record} :
    records? bytes = some records ↔ Reads none bytes records [] := by
  constructor
  · intro read
    obtain ⟨tokens, tokenized, nested⟩ := Option.bind_eq_some_iff.mp read
    obtain ⟨more, reads, same⟩ := nest?_completes tokenized nested
    rw [same]
    exact reads
  · intro reads
    obtain ⟨tokens, tokenized, nests⟩ := reads.tokens (tokens?_eq_nil.mpr rfl)
    rw [records?, tokenized]
    simpa [nest?] using nests [] []

theorem records?_append {front back : Bytes} {records others : List Record}
    (first : records? front = some records) (second : records? back = some others) :
    records? (front ++ back) = some (records ++ others) :=
  records?_eq_some.mpr ((records?_eq_some.mp first).append rfl (records?_eq_some.mp second))

theorem records?_chunks {parts : List (Nat × Bytes)}
    (numbered : ∀ part ∈ parts, 0 < part.1 ∧ part.1 * 8 + 2 < keyLimit) {records : List Record} :
    records? (parts.flatMap fun part => chunk part.1 part.2) = some records ↔
      (∀ part ∈ parts, part.2.length < sizeLimit) ∧
        records = parts.map fun part => (part.1, .chunk part.2) := by
  rw [records?_eq_some]
  induction parts generalizing records with
  | nil =>
      simp only [List.flatMap_nil, List.map_nil, List.not_mem_nil, false_implies, implies_true,
        true_and]
      constructor
      · intro reads
        exact (reads.unique .done).1
      · rintro rfl
        exact .done
  | cons part parts ih =>
      rw [List.forall_mem_cons] at numbered
      rw [List.flatMap_cons, Reads.chunk_iff numbered.1.1 numbered.1.2, List.forall_mem_cons]
      simp only [ih numbered.2]
      constructor
      · rintro ⟨fits, others, rfl, othersFit, rfl⟩
        exact ⟨⟨fits, othersFit⟩, rfl⟩
      · rintro ⟨⟨fits, othersFit⟩, rfl⟩
        exact ⟨fits, _, rfl, othersFit, rfl⟩

theorem groupWithin_reads {steps number : Nat} {bytes rest : Bytes} {records : List Record}
    (read : groupWithin steps number [] [] bytes = some (records, rest)) :
    Reads (some number) bytes records rest := by
  obtain ⟨more, reads, same⟩ := groupWithin_completes read
  rw [same]
  exact reads

end BindingPress.Wire
