import BindingPress.Proofs.Records
import BindingPress.Wire.Message
import Mathlib.Data.List.Forall2

/-!
What a schema makes of records. The values of a field come from the records of its number alone, and
what can be read at a depth is read alike at a greater one.
-/

namespace BindingPress.Wire

variable {κ : Type} {schema : Schema κ} {copied : κ → Bool} {depth : Nat} {kind : κ}
variable {records : List Record} {entries : Entries}

theorem mapM_eq_some {α β : Type} {f : α → Option β} {elements : List α} {results : List β} :
    elements.mapM f = some results ↔
      List.Forall₂ (fun element result => f element = some result) elements results := by
  induction elements generalizing results with
  | nil => simp [List.forall₂_nil_left_iff, eq_comm]
  | cons element elements ih =>
      simp only [List.mapM_cons, Option.bind_eq_bind, Option.bind_eq_some_iff, Option.pure_def,
        Option.some.injEq, List.forall₂_cons_left_iff, ih]
      constructor
      · rintro ⟨first, found, others, following, rfl⟩
        exact ⟨first, others, found, following, rfl⟩
      · rintro ⟨first, others, found, following, rfl⟩
        exact ⟨first, found, others, following, rfl⟩

theorem exists_forall₂_iff {α β : Type} {related : α → β → Prop} {elements : List α} :
    (∃ results, List.Forall₂ related elements results) ↔
      ∀ element ∈ elements, ∃ result, related element result := by
  induction elements with
  | nil => simp [List.forall₂_nil_left_iff]
  | cons element elements ih =>
      rw [List.forall_mem_cons, ← ih]
      simp only [List.forall₂_cons_left_iff]
      constructor
      · rintro ⟨_, first, others, found, following, rfl⟩
        exact ⟨⟨first, found⟩, others, following⟩
      · rintro ⟨⟨first, found⟩, others, following⟩
        exact ⟨_, first, others, found, following, rfl⟩

theorem exists_of_mem_right {α β : Type} {related : α → β → Prop} {elements : List α}
    {results : List β} (all : List.Forall₂ related elements results) {result : β}
    (member : result ∈ results) : ∃ element ∈ elements, related element result := by
  induction all with
  | nil => simp at member
  | @cons element first elements results found _ ih =>
      rcases List.mem_cons.mp member with rfl | later
      · exact ⟨element, List.mem_cons_self, found⟩
      · obtain ⟨source, among, given⟩ := ih later
        exact ⟨source, List.mem_cons_of_mem _ among, given⟩

def inner? (schema : Schema κ) (copied : κ → Bool) :
    (depth : Nat) → κ → List Record → Option Entries
  | 0 => fun _ _ => none
  | depth + 1 => interpret? schema copied depth

theorem interpret?_eq_some :
    interpret? schema copied depth kind records = some entries ↔
      ∃ parts, List.Forall₂ (fun record part =>
          entries? schema copied depth (inner? schema copied depth) kind record = some part)
        records parts ∧ parts.flatten = entries := by
  have opened : interpret? schema copied depth kind records =
      (records.mapM (entries? schema copied depth (inner? schema copied depth) kind)).map
        List.flatten := by
    cases depth <;> rfl
  simp only [opened, Option.map_eq_some_iff, mapM_eq_some]

theorem interpret?_succeeds_iff :
    (∃ entries, interpret? schema copied depth kind records = some entries) ↔
      ∀ record ∈ records, ∃ part,
        entries? schema copied depth (inner? schema copied depth) kind record = some part := by
  rw [← exists_forall₂_iff]
  constructor
  · rintro ⟨entries, read⟩
    obtain ⟨parts, related, _⟩ := interpret?_eq_some.mp read
    exact ⟨parts, related⟩
  · rintro ⟨parts, related⟩
    exact ⟨parts.flatten, interpret?_eq_some.mpr ⟨parts, related, rfl⟩⟩

section Records

variable {below below' : κ → List Record → Option Entries} {number : Nat} {content : Content}
variable {part : Entries}

theorem entries?_known {slot : Slot κ} (known : schema kind number = some slot) :
    entries? schema copied depth below kind (number, content) = some part ↔
      (copied kind = true → content.height ≤ depth) ∧
        ∃ data, data? below slot content = some data ∧ data.map (number, ·) = part := by
  by_cases fits : content.height ≤ depth
  · simp [entries?, known, fits]
  · cases copies : copied kind <;> simp [entries?, known, fits, copies]

theorem entries?_unknown (unknown : schema kind number = none) :
    entries? schema copied depth below kind (number, content) = some part ↔
      content.height ≤ depth ∧ part = [] := by
  simp [entries?, unknown, eq_comm]

theorem entries?_number {record : Record}
    (read : entries? schema copied depth below kind record = some part) :
    ∀ entry ∈ part, entry.1 = record.1 := by
  obtain ⟨number, content⟩ := record
  cases known : schema kind number with
  | none => simp [((entries?_unknown known).mp read).2]
  | some slot =>
      obtain ⟨_, data, _, rfl⟩ := (entries?_known known).mp read
      simp

theorem data?_message {inner : κ} {data : List Datum} :
    data? below (.message inner) content = some data ↔
      ∃ bytes records entries, content = .chunk bytes ∧ records? bytes = some records ∧
        below inner records = some entries ∧ data = [.message bytes entries] := by
  cases content with
  | chunk bytes =>
      simp only [data?, Option.bind_eq_bind, Option.bind_eq_some_iff, Option.pure_def,
        Option.some.injEq, Content.chunk.injEq]
      constructor
      · rintro ⟨records, found, entries, read, rfl⟩
        exact ⟨bytes, records, entries, rfl, found, read, rfl⟩
      · rintro ⟨bytes, records, entries, rfl, found, read, rfl⟩
        exact ⟨records, found, entries, read, rfl⟩
  | varint | fixed32 | fixed64 | group => simp [data?]

theorem data?_blob {data : List Datum} :
    data? below .blob content = some data ↔
      ∃ bytes, content = .chunk bytes ∧ data = [.blob bytes] := by
  cases content <;> simp [data?, eq_comm]

theorem data?_text {data : List Datum} :
    data? below .text content = some data ↔
      ∃ bytes text, content = .chunk bytes ∧ bytes.text? = some text ∧ [.text text] = data := by
  cases content <;> simp [data?]

theorem data?_weaken {slot : Slot κ} {data : List Datum}
    (agrees : ∀ kind records entries,
      below kind records = some entries → below' kind records = some entries)
    (read : data? below slot content = some data) : data? below' slot content = some data := by
  cases slot with
  | number => exact read
  | text => exact data?_text.mpr (data?_text.mp read)
  | blob => exact data?_blob.mpr (data?_blob.mp read)
  | message kind =>
      obtain ⟨bytes, records, entries, rfl, found, inner, rfl⟩ := data?_message.mp read
      exact data?_message.mpr ⟨bytes, records, entries, rfl, found, agrees _ _ _ inner, rfl⟩

theorem entries?_weaken {copied' : κ → Bool} {depth' : Nat} {record : Record}
    (agrees : ∀ kind records entries,
      below kind records = some entries → below' kind records = some entries)
    (deeper : depth ≤ depth') (fewer : ∀ kind, copied' kind = true → copied kind = true)
    (read : entries? schema copied depth below kind record = some part) :
    entries? schema copied' depth' below' kind record = some part := by
  obtain ⟨number, content⟩ := record
  cases known : schema kind number with
  | none =>
      obtain ⟨fits, same⟩ := (entries?_unknown known).mp read
      exact (entries?_unknown known).mpr ⟨Nat.le_trans fits deeper, same⟩
  | some slot =>
      obtain ⟨fits, data, given, same⟩ := (entries?_known known).mp read
      have room : copied' kind = true → content.height ≤ depth' := fun copies =>
        Nat.le_trans (fits (fewer kind copies)) deeper
      exact (entries?_known known).mpr ⟨room, data, data?_weaken agrees given, same⟩

end Records

theorem interpret?_weaken {copied' : κ → Bool} {depth' : Nat} (deeper : depth ≤ depth')
    (fewer : ∀ kind, copied' kind = true → copied kind = true)
    (read : interpret? schema copied depth kind records = some entries) :
    interpret? schema copied' depth' kind records = some entries := by
  induction depth generalizing depth' kind records entries with
  | zero =>
      obtain ⟨parts, related, rfl⟩ := interpret?_eq_some.mp read
      have agrees : ∀ kind records entries, inner? schema copied 0 kind records = some entries →
          inner? schema copied' depth' kind records = some entries := by
        simp [inner?]
      exact interpret?_eq_some.mpr ⟨parts,
        related.imp fun record part => entries?_weaken agrees deeper fewer, rfl⟩
  | succ depth ih =>
      obtain ⟨parts, related, rfl⟩ := interpret?_eq_some.mp read
      obtain ⟨depth', rfl⟩ : ∃ lower, depth' = lower + 1 := ⟨depth' - 1, by omega⟩
      exact interpret?_eq_some.mpr ⟨parts, related.imp fun record part =>
        entries?_weaken (fun _ _ _ => ih (by omega)) deeper fewer, rfl⟩

theorem interpret?_of_inner?
    (read : inner? schema copied depth kind records = some entries) :
    interpret? schema copied depth kind records = some entries := by
  cases depth with
  | zero => simp [inner?] at read
  | succ depth => exact interpret?_weaken (Nat.le_succ depth) (fun _ copies => copies) read

theorem readCopying?_eq_some {bytes : Bytes} :
    readCopying? schema copied kind bytes = some entries ↔
      ∃ records, records? bytes = some records ∧
        interpret? schema copied depthLimit kind records = some entries :=
  Option.bind_eq_some_iff

/-- What the records of a number hold. -/
def contentsOf (number : Nat) (records : List Record) : List Content :=
  records.filterMap fun (field, content) => if field = number then some content else none

theorem contentsOf_cons (number field : Nat) (content : Content) (records : List Record) :
    contentsOf number ((field, content) :: records) =
      if field = number then content :: contentsOf number records
      else contentsOf number records := by
  by_cases same : field = number <;> simp [contentsOf, same]

namespace Entries

theorem values_append (front back : Entries) (number : Nat) :
    Entries.values (front ++ back) number = front.values number ++ back.values number :=
  List.filterMap_append

theorem values_self (data : List Datum) (number : Nat) :
    Entries.values (data.map (number, ·)) number = data := by
  simp [Entries.values, List.filterMap_map]

theorem values_other {part : Entries} {field number : Nat} (other : field ≠ number)
    (numbered : ∀ entry ∈ part, entry.1 = field) : part.values number = [] := by
  rw [Entries.values, List.filterMap_eq_nil_iff]
  rintro ⟨place, value⟩ member
  obtain rfl : place = field := numbered _ member
  exact if_neg other

end Entries

/-- The values of a field are those that the records of its number give. -/
theorem interpret?_values {slot : Slot κ} {number : Nat} (known : schema kind number = some slot)
    (read : interpret? schema copied depth kind records = some entries) :
    ∃ parts, List.Forall₂ (fun content part =>
        data? (inner? schema copied depth) slot content = some part)
      (contentsOf number records) parts ∧ parts.flatten = entries.values number := by
  obtain ⟨parts, related, rfl⟩ := interpret?_eq_some.mp read
  clear read
  induction related with
  | nil => exact ⟨[], .nil, rfl⟩
  | @cons record part records parts found following ih =>
      obtain ⟨others, related, values⟩ := ih
      obtain ⟨field, content⟩ := record
      rw [List.flatten_cons, Entries.values_append, ← values]
      by_cases same : field = number
      · subst same
        obtain ⟨_, data, given, rfl⟩ := (entries?_known known).mp found
        refine ⟨data :: others, ?_, by rw [Entries.values_self, List.flatten_cons]⟩
        rw [contentsOf_cons, if_pos rfl]
        exact .cons given related
      · refine ⟨others, ?_, by rw [Entries.values_other same (entries?_number found)]; rfl⟩
        rw [contentsOf_cons, if_neg same]
        exact related

def chunksOf (number : Nat) (records : List Record) : List Bytes :=
  (contentsOf number records).filterMap fun
    | .chunk bytes => some bytes
    | _ => none

theorem mem_chunksOf {number : Nat} {bytes : Bytes} :
    bytes ∈ chunksOf number records ↔ (number, .chunk bytes) ∈ records := by
  simp only [chunksOf, contentsOf, List.mem_filterMap]
  constructor
  · rintro ⟨content, ⟨⟨field, given⟩, member, same⟩, held⟩
    split at same
    next isField =>
      obtain rfl := Option.some.inj same
      cases given with
      | chunk content =>
          obtain rfl := Option.some.inj held
          exact isField ▸ member
      | varint | fixed32 | fixed64 | group => simp at held
    next => simp at same
  · intro member
    exact ⟨.chunk bytes, ⟨_, member, if_pos rfl⟩, rfl⟩

theorem interpret?_blobs {number : Nat} (known : schema kind number = some .blob)
    (read : interpret? schema copied depth kind records = some entries) :
    entries.blobs number = chunksOf number records := by
  obtain ⟨parts, related, values⟩ := interpret?_values known read
  rw [Entries.blobs, ← values, chunksOf]
  clear values
  generalize contentsOf number records = contents at related ⊢
  induction related with
  | nil => rfl
  | cons given _ ih =>
      obtain ⟨bytes, rfl, rfl⟩ := data?_blob.mp given
      simpa using ih

theorem interpret?_messages {number : Nat} {inner : κ}
    (known : schema kind number = some (.message inner))
    (read : interpret? schema copied depth kind records = some entries) :
    List.Forall₂ (fun bytes entries => ∃ records, records? bytes = some records ∧
        inner? schema copied depth inner records = some entries)
      (chunksOf number records) (entries.messages number) := by
  obtain ⟨parts, related, values⟩ := interpret?_values known read
  rw [Entries.messages, ← values, chunksOf]
  clear values
  generalize contentsOf number records = contents at related ⊢
  induction related with
  | nil => exact .nil
  | cons given _ ih =>
      obtain ⟨bytes, records, entries, rfl, found, within, rfl⟩ := data?_message.mp given
      exact .cons ⟨records, found, within⟩ ih

theorem interpret?_raw {number : Nat} {inner : κ}
    (known : schema kind number = some (.message inner))
    (read : interpret? schema copied depth kind records = some entries) :
    ∃ given, records? (entries.raw number) = some given := by
  obtain ⟨parts, related, values⟩ := interpret?_values known read
  rw [Entries.raw, ← values]
  clear values
  generalize contentsOf number records = contents at related
  induction related with
  | nil => exact ⟨[], rfl⟩
  | cons given _ ih =>
      obtain ⟨bytes, first, entries, rfl, found, _, rfl⟩ := data?_message.mp given
      obtain ⟨others, foundOthers⟩ := ih
      exact ⟨first ++ others, records?_append found foundOthers⟩

theorem interpret?_of_mem {number : Nat} {inner : κ}
    (known : schema kind number = some (.message inner))
    (read : interpret? schema copied depth kind records = some entries) {bytes : Bytes}
    {within : Entries} (member : .message bytes within ∈ entries.values number) :
    ∃ records, interpret? schema copied depth inner records = some within := by
  obtain ⟨parts, related, values⟩ := interpret?_values known read
  rw [← values] at member
  obtain ⟨part, among, listed⟩ := List.mem_flatten.mp member
  obtain ⟨content, _, given⟩ := exists_of_mem_right related among
  obtain ⟨held, records, found, _, _, readInner, rfl⟩ := data?_message.mp given
  obtain ⟨rfl, rfl⟩ : bytes = held ∧ within = found := by simpa using listed
  exact ⟨records, interpret?_of_inner? readInner⟩

end BindingPress.Wire
