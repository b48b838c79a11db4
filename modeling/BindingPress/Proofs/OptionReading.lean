import BindingPress.Pool.Reading
import BindingPress.Proofs.Interpretation

/-!
Reading a message that a pool describes. As long as maps are given as bytes, the reader stays in
step with the records, and what it has for a number in the end is what the last record of it holds.
-/

namespace BindingPress

open Wire (Content Key Record Reads contentsOf)

namespace MessageFields

theorem get?_cons (number other : Nat) (value : FieldValue) (fields : MessageFields) :
    get? ((number, value) :: fields) other =
      if other = number then some value else get? fields other := by
  by_cases same : other = number
  · simp [get?, same]
  · have different : (other == number) = false := by simpa using same
    rw [if_neg same, get?, List.lookup_cons, different]
    rfl

theorem get?_erase (fields : MessageFields) (number other : Nat) :
    (fields.erase number).get? other = if other = number then none else fields.get? other := by
  induction fields with
  | nil => simp [erase, get?]
  | cons entry fields ih =>
      obtain ⟨place, value⟩ := entry
      rw [erase] at ih
      rw [erase, List.filter_cons, get?_cons]
      by_cases erased : place = number
      · subst erased
        rw [if_neg (by simp), ih]
        by_cases same : other = place <;> simp [same]
      · rw [if_pos (by simp [erased]), get?_cons, ih]
        by_cases same : other = place
        · subst same
          rw [if_pos rfl, if_pos rfl, if_neg erased]
        · rw [if_neg same, if_neg same]

theorem get?_put (fields : MessageFields) (number other : Nat) (value : FieldValue) :
    (fields.put number value).get? other =
      if other = number then some value else fields.get? other := by
  rw [put, get?_cons, get?_erase]
  by_cases same : other = number <;> simp [same]

theorem get?_erases {number : Nat} {numbers : List Nat} (spared : number ∉ numbers)
    (fields : MessageFields) : (numbers.foldl erase fields).get? number = fields.get? number := by
  induction numbers generalizing fields with
  | nil => rfl
  | cons other numbers ih =>
      rw [List.mem_cons, not_or] at spared
      rw [List.foldl_cons, ih spared.2, get?_erase, if_neg spared.1]

end MessageFields

namespace Pool

variable {pool : Pool}

theorem get?_set_self (fields : MessageFields) (field : PoolField) (value : FieldValue) :
    (pool.set fields field value).get? field.number = some value := by
  rw [set, MessageFields.get?_put, if_pos rfl]

theorem get?_set_other {field : PoolField} {number : Nat} (other : number ≠ field.number)
    (spared : number ∉ pool.rivals field) (fields : MessageFields) (value : FieldValue) :
    (pool.set fields field value).get? number = fields.get? number := by
  rw [set, MessageFields.get?_put, if_neg other, claim, MessageFields.get?_erases spared]

theorem readFields_next {steps depth : Nat} {owner : String} {group : Option Nat}
    {fields : MessageFields} {bytes after : Bytes} {key : Key}
    (found : Wire.key? bytes = some (key, after)) :
    pool.readFields (steps + 1) depth owner group fields bytes =
      if key.form = .closing && group.isSome then
        if group = some key.number then some (fields, after) else none
      else
        (pool.readField (pool.readFields steps) (pool.readEntry steps) depth owner key fields
          after).bind fun (fields, rest) =>
            pool.readFields steps depth owner group fields rest := by
  cases bytes with
  | nil => cases found
  | cons byte bytes =>
      simp only [readFields, found]
      rfl

theorem field?_spec {owner : String} {number : Nat} {field : PoolField}
    (found : pool.field? owner number = some field) :
    field.owner = owner ∧ field.number = number := by
  have fits : field.owner = owner ∧ field.descriptor.number = (number : Int) := by
    rw [field?] at found
    cases own : pool.ownField? owner number with
    | some ownField =>
        rw [own] at found
        obtain rfl := Option.some.inj found
        have accepted := List.find?_some own
        simpa using accepted
    | none =>
        rw [own] at found
        have accepted := List.find?_some found
        simpa using accepted
  refine ⟨fits.1, ?_⟩
  rw [PoolField.number, fits.2]
  exact Int.toNat_natCast number

end Pool

def Wire.Starts (key : Key) (content : Content) (bytes next : Bytes) : Prop :=
  Wire.content? key.form bytes = some (content, next) ∨
    key.form = .opening ∧ ∃ inner, content = .group inner ∧ Reads (some key.number) bytes inner next

theorem Wire.Reads.starts {group : Option Nat} {bytes rest : Bytes} {number : Nat}
    {content : Content} {records : List Record}
    (reads : Reads group bytes ((number, content) :: records) rest) :
    ∃ key after next, Wire.key? bytes = some (key, after) ∧ key.number = number ∧
      key.form ≠ .closing ∧ Wire.Starts key content after next ∧ Reads group next records rest := by
  cases reads with
  | @record _ _ next _ _ _ _ found following =>
      obtain ⟨form, after, keyed, given⟩ := Wire.nextToken?_eq_record.mp found
      refine ⟨⟨number, form⟩, after, next, keyed, rfl, ?_, .inl given, following⟩
      rintro rfl
      cases given
  | @group _ _ after next _ _ inner _ found within following =>
      exact ⟨⟨number, .opening⟩, after, next, Wire.nextToken?_eq_opening.mp found, rfl, by simp,
        .inr ⟨rfl, inner, rfl, within⟩, following⟩

namespace Wire.Starts

variable {key : Key} {content : Content} {bytes next rest : Bytes}

theorem content?_rest (starts : Starts key content bytes next) {other : Content}
    (read : Wire.content? key.form bytes = some (other, rest)) : other = content ∧ rest = next := by
  rcases starts with given | ⟨opening, _⟩
  · rw [given] at read
    obtain ⟨rfl, rfl⟩ := Prod.mk.inj (Option.some.inj read)
    exact ⟨rfl, rfl⟩
  · rw [opening] at read
    cases read

theorem sized?_rest (starts : Starts key content bytes next) (isChunk : key.form = .chunk)
    {chunk : Bytes} (read : Wire.sized? bytes = some (chunk, rest)) : rest = next := by
  have given : Wire.content? key.form bytes = some (.chunk chunk, rest) := by
    rw [isChunk]
    exact Wire.content?_eq_chunk.mpr ⟨rfl, read⟩
  exact (starts.content?_rest given).2

theorem contentOrGroup?_rest (starts : Starts key content bytes next) {other : Content}
    (read : Wire.contentOrGroup? key bytes = some (other, rest)) : rest = next := by
  obtain ⟨number, form⟩ := key
  cases form with
  | opening =>
      obtain ⟨⟨records, after⟩, grouped, same⟩ := Option.map_eq_some_iff.mp read
      obtain ⟨_, rfl⟩ := Prod.mk.inj same
      rcases starts with given | ⟨_, inner, _, reads⟩
      · cases given
      · exact ((Wire.groupWithin_reads grouped).unique reads).2
  | varint | fixed64 | chunk | closing | fixed32 => exact (starts.content?_rest read).2

theorem form_of_chunk {chunk : Bytes} (starts : Starts key (.chunk chunk) bytes next) :
    key.form = .chunk := by
  rcases starts with given | ⟨_, inner, same, _⟩
  · exact (Wire.content?_eq_chunk.mp given).1
  · cases same

end Wire.Starts

mutual

/-- Where a pool takes a record for a part of a map, the record holds bytes; so it is within groups
that the pool knows. -/
def Wire.Content.keepsMaps (pool : Pool) (owner : String) (number : Nat) : Content → Bool
  | .chunk _ => true
  | .group records =>
      match pool.field? owner number with
      | some field =>
          !pool.isMap field &&
            match field.type with
            | .group inner => Wire.keepMaps pool inner records
            | _ => true
      | none => true
  | .varint _ | .fixed32 _ | .fixed64 _ =>
      match pool.field? owner number with
      | some field => !pool.isMap field
      | none => true

def Wire.keepMaps (pool : Pool) (owner : String) : List (Nat × Content) → Bool
  | [] => true
  | (number, content) :: rest =>
      content.keepsMaps pool owner number && Wire.keepMaps pool owner rest

end

namespace Pool

variable {pool : Pool} {key : Key} {content : Content} {bytes next rest : Bytes}

def KeepsStep (pool : Pool) (reader : FieldsReader) : Prop :=
  ∀ depth owner group fields bytes records rest fields' rest', Reads group bytes records rest →
    Wire.keepMaps pool owner records = true →
    reader depth owner group fields bytes = some (fields', rest') → rest' = rest

theorem readSingle_rest {reader : FieldsReader} (inStep : pool.KeepsStep reader) {depth : Nat}
    {field : PoolField} {value single : FieldValue} (starts : Wire.Starts key content bytes next)
    (known : pool.field? field.owner key.number = some field)
    (kept : content.keepsMaps pool field.owner key.number = true)
    (read : readSingle reader depth field key.form value bytes = some (single, rest)) :
    rest = next := by
  unfold readSingle at read
  split at read
  next isChunk =>
    obtain ⟨⟨chunk, after⟩, sized, following⟩ := Option.bind_eq_some_iff.mp read
    obtain ⟨inner, _, same⟩ := Option.bind_eq_some_iff.mp following
    obtain ⟨_, rfl⟩ := Prod.mk.inj (Option.some.inj same)
    exact starts.sized?_rest isChunk sized
  next name _ isGroup isOpening =>
    obtain ⟨⟨inner, after⟩, grouped, same⟩ := Option.bind_eq_some_iff.mp read
    obtain ⟨_, rfl⟩ := Prod.mk.inj (Option.some.inj same)
    rcases starts with given | ⟨_, records, rfl, reads⟩
    · rw [isOpening] at given
      cases given
    · rw [← (field?_spec known).2] at reads
      refine inStep _ _ _ _ _ _ _ _ _ reads ?_ grouped
      simp only [Content.keepsMaps, known, isGroup, Bool.and_eq_true] at kept
      exact kept.2
  next =>
    obtain ⟨⟨other, after⟩, given, following⟩ := Option.bind_eq_some_iff.mp read
    obtain ⟨_, _, same⟩ := Option.bind_eq_some_iff.mp following
    obtain ⟨_, rfl⟩ := Prod.mk.inj (Option.some.inj same)
    exact (starts.content?_rest given).2

theorem readValue_rest {reader : FieldsReader} {entry : EntryReader}
    (inStep : pool.KeepsStep reader) {depth : Nat} {field : PoolField}
    {value single : FieldValue} (starts : Wire.Starts key content bytes next)
    (known : pool.field? field.owner key.number = some field)
    (kept : content.keepsMaps pool field.owner key.number = true)
    (read : pool.readValue reader entry depth field key.form value bytes = some (single, rest)) :
    rest = next := by
  rw [readValue] at read
  by_cases isMap : pool.isMap field = true
  · rw [if_pos isMap] at read
    obtain ⟨fields, _, following⟩ := Option.bind_eq_some_iff.mp read
    obtain ⟨_, _, following⟩ := Option.bind_eq_some_iff.mp following
    obtain ⟨⟨chunk, after⟩, sized, following⟩ := Option.bind_eq_some_iff.mp following
    obtain ⟨_, _, same⟩ := Option.bind_eq_some_iff.mp following
    obtain ⟨_, rfl⟩ := Prod.mk.inj (Option.some.inj same)
    cases content with
    | chunk held => exact starts.sized?_rest starts.form_of_chunk sized
    | varint | fixed32 | fixed64 | group => simp [Content.keepsMaps, known, isMap] at kept
  rw [if_neg isMap] at read
  by_cases isRepeated : field.descriptor.isRepeated = true
  · rw [if_pos isRepeated] at read
    by_cases packed : (key.form = .chunk && field.type.isPackable) = true
    · rw [if_pos packed] at read
      obtain ⟨⟨chunk, after⟩, sized, following⟩ := Option.bind_eq_some_iff.mp read
      obtain ⟨_, _, same⟩ := Option.bind_eq_some_iff.mp following
      obtain ⟨_, rfl⟩ := Prod.mk.inj (Option.some.inj same)
      simp only [Bool.and_eq_true, decide_eq_true_eq] at packed
      exact starts.sized?_rest packed.1 sized
    · rw [if_neg packed] at read
      obtain ⟨⟨single, after⟩, alone, same⟩ := Option.bind_eq_some_iff.mp read
      obtain ⟨_, rfl⟩ := Prod.mk.inj (Option.some.inj same)
      exact readSingle_rest inStep starts known kept alone
  · rw [if_neg isRepeated] at read
    exact readSingle_rest inStep starts known kept read

theorem readField_rest {reader : FieldsReader} {entry : EntryReader}
    (inStep : pool.KeepsStep reader) {depth : Nat} {owner : String} {fields fields' : MessageFields}
    (starts : Wire.Starts key content bytes next)
    (kept : content.keepsMaps pool owner key.number = true)
    (read : pool.readField reader entry depth owner key fields bytes = some (fields', rest)) :
    rest = next := by
  unfold readField at read
  split at read
  next field known =>
    obtain ⟨⟨value, after⟩, given, same⟩ := Option.bind_eq_some_iff.mp read
    obtain ⟨_, rfl⟩ := Prod.mk.inj (Option.some.inj same)
    obtain rfl := (field?_spec known).1
    exact readValue_rest inStep starts known kept given
  next =>
    obtain ⟨after, skipped, same⟩ := Option.map_eq_some_iff.mp read
    obtain ⟨_, rfl⟩ := Prod.mk.inj same
    obtain ⟨⟨other, rest⟩, given, fits⟩ := Option.bind_eq_some_iff.mp skipped
    obtain ⟨_, rfl⟩ : other.levels ≤ depth ∧ rest = after := by simpa using fits
    exact starts.contentOrGroup?_rest given

theorem readFields_cons {steps depth : Nat} {owner : String} {group : Option Nat}
    {fields fields' : MessageFields} {bytes after rest : Bytes} {key : Key}
    (found : Wire.key? bytes = some (key, after)) (continued : key.form ≠ .closing)
    (read : pool.readFields (steps + 1) depth owner group fields bytes = some (fields', rest)) :
    ∃ between next, pool.readField (pool.readFields steps) (pool.readEntry steps) depth owner key
        fields after = some (between, next) ∧
      pool.readFields steps depth owner group between next = some (fields', rest) := by
  rw [readFields_next found, if_neg (by simp [continued])] at read
  obtain ⟨⟨between, next⟩, first, following⟩ := Option.bind_eq_some_iff.mp read
  exact ⟨between, next, first, following⟩

theorem readFields_nil {steps depth : Nat} {owner : String} {group : Option Nat}
    {fields fields' : MessageFields} {bytes rest rest' : Bytes} (reads : Reads group bytes [] rest)
    (read : pool.readFields steps depth owner group fields bytes = some (fields', rest')) :
    fields' = fields ∧ rest' = rest := by
  cases steps with
  | zero => simp [readFields] at read
  | succ steps =>
      cases reads with
      | done =>
          obtain ⟨rfl, rfl⟩ := Prod.mk.inj (Option.some.inj read)
          exact ⟨rfl, rfl⟩
      | closed found =>
          rw [readFields_next (Wire.nextToken?_eq_closing.mp found)] at read
          obtain ⟨rfl, rfl⟩ : fields = fields' ∧ rest = rest' := by simpa using read
          exact ⟨rfl, rfl⟩

theorem readFields_keepsStep (steps : Nat) : pool.KeepsStep (pool.readFields steps) := by
  induction steps with
  | zero =>
      intro depth owner group fields bytes records rest fields' rest' _ _ read
      simp [readFields] at read
  | succ steps ih =>
      intro depth owner group fields bytes records rest fields' rest' reads kept read
      cases records with
      | nil => exact (readFields_nil reads read).2
      | cons record records =>
          obtain ⟨number, content⟩ := record
          obtain ⟨key, after, next, found, rfl, continued, starts, following⟩ := reads.starts
          obtain ⟨between, middle, first, others⟩ := readFields_cons found continued read
          rw [Wire.keepMaps, Bool.and_eq_true] at kept
          obtain rfl := readField_rest ih starts kept.1 first
          exact ih _ _ _ _ _ _ _ _ _ following kept.2 others

/-- A field that is found by its number, holds one value that is no message, and shares no oneof. -/
structure Keeps (pool : Pool) (owner : String) (field : PoolField) : Prop where
  found : pool.field? owner field.number = some field
  singular : field.descriptor.isRepeated = false
  simple : field.type.isMessage = false
  apart : ∀ other, other.owner = owner → field.number ∉ pool.rivals other

section Keeps

variable {owner : String} {field : PoolField} (keeps : pool.Keeps owner field)

include keeps

theorem readField_own {reader : FieldsReader} {entry : EntryReader} {depth : Nat}
    {fields fields' : MessageFields} (starts : Wire.Starts key content bytes next)
    (same : key.number = field.number)
    (read : pool.readField reader entry depth owner key fields bytes = some (fields', rest)) :
    ∃ value, field.type.value? content = some value ∧ fields'.get? field.number = some value := by
  have noMap : pool.isMap field = false := by simp [isMap, keeps.singular]
  simp only [readField, same, keeps.found] at read
  obtain ⟨⟨value, after⟩, given, set⟩ := Option.bind_eq_some_iff.mp read
  obtain ⟨rfl, _⟩ := Prod.mk.inj (Option.some.inj set)
  refine ⟨value, ?_, get?_set_self fields field value⟩
  have alone : field.type.single? key.form bytes = some (value, after) := by
    rw [readValue, if_neg (by simp [noMap]), if_neg (by simp [keeps.singular])] at given
    unfold readSingle at given
    have simple := keeps.simple
    split at given
    · simp_all [ResolvedType.isMessage]
    · simp_all [ResolvedType.isMessage]
    · exact given
  obtain ⟨⟨other, rest⟩, held, valued⟩ := Option.bind_eq_some_iff.mp alone
  obtain ⟨rfl, _⟩ := starts.content?_rest held
  obtain ⟨single, stands, final⟩ := Option.bind_eq_some_iff.mp valued
  obtain ⟨rfl, _⟩ := Prod.mk.inj (Option.some.inj final)
  exact stands

theorem readField_other {reader : FieldsReader} {entry : EntryReader} {depth : Nat}
    {fields fields' : MessageFields} (other : key.number ≠ field.number)
    (read : pool.readField reader entry depth owner key fields bytes = some (fields', rest)) :
    fields'.get? field.number = fields.get? field.number := by
  unfold readField at read
  split at read
  next known found =>
    obtain ⟨⟨value, after⟩, _, set⟩ := Option.bind_eq_some_iff.mp read
    obtain ⟨rfl, _⟩ := Prod.mk.inj (Option.some.inj set)
    obtain ⟨owned, numbered⟩ := field?_spec found
    refine get?_set_other ?_ (keeps.apart known owned) fields value
    rw [numbered]
    exact other.symm
  next =>
    obtain ⟨after, _, same⟩ := Option.map_eq_some_iff.mp read
    obtain ⟨rfl, _⟩ := Prod.mk.inj same
    rfl

theorem readFields_get? {steps depth : Nat} {group : Option Nat} {fields fields' : MessageFields}
    {bytes rest rest' : Bytes} {records : List Record} (reads : Reads group bytes records rest)
    (kept : Wire.keepMaps pool owner records = true)
    (read : pool.readFields steps depth owner group fields bytes = some (fields', rest')) :
    (∀ content ∈ contentsOf field.number records, ∃ value, field.type.value? content = some value) ∧
      fields'.get? field.number =
        (contentsOf field.number records).foldl (fun _ content => field.type.value? content)
          (fields.get? field.number) := by
  induction steps generalizing fields bytes records with
  | zero => simp [readFields] at read
  | succ steps ih =>
      cases records with
      | nil => simp [(readFields_nil reads read).1, contentsOf]
      | cons record records =>
          obtain ⟨number, content⟩ := record
          obtain ⟨key, after, next, found, rfl, continued, starts, following⟩ := reads.starts
          obtain ⟨between, middle, first, others⟩ := readFields_cons found continued read
          rw [Wire.keepMaps, Bool.and_eq_true] at kept
          obtain rfl := readField_rest (readFields_keepsStep steps) starts kept.1 first
          obtain ⟨readable, final⟩ := ih following kept.2 others
          rw [Wire.contentsOf_cons]
          by_cases same : key.number = field.number
          · obtain ⟨value, stands, set⟩ := readField_own keeps starts same first
            rw [if_pos same, List.forall_mem_cons, List.foldl_cons, stands, ← set]
            exact ⟨⟨⟨value, set⟩, readable⟩, final⟩
          · rw [if_neg same, ← readField_other keeps same first]
            exact ⟨readable, final⟩

/-- The value of the field in a message. -/
theorem readMessage?_get? {fields : MessageFields} {bytes : Bytes} {records : List Record}
    (spelled : Wire.records? bytes = some records)
    (kept : Wire.keepMaps pool owner records = true)
    (read : pool.readMessage? owner bytes = some fields) :
    (∀ content ∈ contentsOf field.number records, ∃ value, field.type.value? content = some value) ∧
      fields.get? field.number =
        (contentsOf field.number records).getLast?.bind field.type.value? := by
  obtain ⟨⟨fields, rest⟩, found, rfl⟩ := Option.map_eq_some_iff.mp read
  obtain ⟨readable, final⟩ :=
    readFields_get? keeps (Wire.records?_eq_some.mp spelled) kept found
  refine ⟨readable, final.trans ?_⟩
  generalize contentsOf field.number records = contents
  rcases List.eq_nil_or_concat contents with rfl | ⟨front, last, rfl⟩
  · rfl
  · simp

end Keeps
end Pool
end BindingPress
