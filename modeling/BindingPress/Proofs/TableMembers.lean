import BindingPress.Conversion
import BindingPress.Proofs.Interpretation
import BindingPress.Proofs.LastEntry
import Mathlib.Data.List.Dedup
import Mathlib.Data.List.Induction

/-!
Which objects are conversion tables, and what such a table then holds. Entries and the wrapper have
shapes of their own; of several entries for one kind the last one counts, but a table is refused for
any member that does not have its shape.
-/

namespace BindingPress

namespace Json

def ofMembers (members : List (String × Json)) : Json :=
  .object (members.map fun member => (some member.1, member.2))

/-- All strings can be read, all numbers are finite, and arrays and objects nest at most `depth`
deep. -/
inductive IsReadable : (depth : Nat) → Json → Prop
  | null {depth : Nat} : IsReadable depth .null
  | bool {depth : Nat} {value : Bool} : IsReadable depth (.bool value)
  | number {depth : Nat} : IsReadable depth (.number true)
  | text {depth : Nat} {text : String} : IsReadable depth (.text (some text))
  | array {depth : Nat} {items : List Json} : (∀ item ∈ items, IsReadable depth item) →
      IsReadable (depth + 1) (.array items)
  | object {depth : Nat} {members : List (Option String × Json)} :
      (∀ member ∈ members, ∃ name, member.1 = some name) →
      (∀ member ∈ members, IsReadable depth member.2) →
      IsReadable (depth + 1) (.object members)

theorem isReadable_array {depth : Nat} {items : List Json} :
    IsReadable depth (.array items) ↔
      0 < depth ∧ ∀ item ∈ items, IsReadable (depth - 1) item := by
  constructor
  · intro readable
    cases readable with
    | array each => exact ⟨Nat.succ_pos _, each⟩
  · rintro ⟨deep, each⟩
    obtain ⟨below, rfl⟩ := Nat.exists_eq_add_of_lt deep
    rw [Nat.zero_add] at each ⊢
    exact .array each

theorem isReadable_object {depth : Nat} {members : List (Option String × Json)} :
    IsReadable depth (.object members) ↔
      0 < depth ∧ ∀ member ∈ members,
        (∃ name, member.1 = some name) ∧ IsReadable (depth - 1) member.2 := by
  constructor
  · intro readable
    cases readable with
    | object named each =>
        exact ⟨Nat.succ_pos _, fun member among => ⟨named member among, each member among⟩⟩
  · rintro ⟨deep, each⟩
    obtain ⟨below, rfl⟩ := Nat.exists_eq_add_of_lt deep
    rw [Nat.zero_add] at each ⊢
    exact .object (fun member among => (each member among).1)
      fun member among => (each member among).2

mutual

theorem sound_iff (depth : Nat) (json : Json) :
    json.sound depth = true ↔ IsReadable depth json := by
  cases json with
  | null => exact ⟨fun _ => .null, fun _ => rfl⟩
  | bool value => exact ⟨fun _ => .bool, fun _ => rfl⟩
  | number finite =>
      constructor
      · rintro rfl
        exact .number
      · rintro ⟨⟩
        rfl
  | text value =>
      constructor
      · intro known
        obtain ⟨text, rfl⟩ := Option.isSome_iff_exists.mp known
        exact .text
      · rintro ⟨⟩
        rfl
  | array items =>
      rw [isReadable_array, ← itemsSound_iff (depth - 1) items, sound, Bool.and_eq_true,
        decide_eq_true_eq]
  | object members =>
      rw [isReadable_object, ← membersSound_iff (depth - 1) members, sound, Bool.and_eq_true,
        decide_eq_true_eq]

theorem itemsSound_iff (depth : Nat) (items : List Json) :
    itemsSound depth items = true ↔ ∀ item ∈ items, IsReadable depth item := by
  cases items with
  | nil => simp [itemsSound]
  | cons item rest =>
      rw [itemsSound, Bool.and_eq_true, List.forall_mem_cons, sound_iff depth item,
        itemsSound_iff depth rest]

theorem membersSound_iff (depth : Nat) (members : List (Option String × Json)) :
    membersSound depth members = true ↔ ∀ member ∈ members,
      (∃ name, member.1 = some name) ∧ IsReadable depth member.2 := by
  match members with
  | [] => simp [membersSound]
  | (name, value) :: rest =>
      rw [membersSound, Bool.and_eq_true, Bool.and_eq_true, List.forall_mem_cons,
        sound_iff depth value, membersSound_iff depth rest, Option.isSome_iff_exists]

end

end Json

namespace ConversionTable

variable {members others : List (String × Json)} {name kind : String} {value : Json}

inductive OptionalMember {α : Type} (shape : Json → Option α → Prop)
    (members : List (String × Json)) (name : String) : Option α → Prop
  | absent : Lacks members name → OptionalMember shape members name none
  | given {value : Json} {read : Option α} : OnlyUnder members name value → shape value read →
      OptionalMember shape members name read

inductive IsText : Json → Option String → Prop
  | text {text : String} : IsText (.text (some text)) (some text)

inductive IsNullableText : Json → Option String → Prop
  | null : IsNullableText .null none
  | text {text : String} : IsNullableText (.text (some text)) (some text)

/-- What may stand for a conversion. Members of other names do not count. -/
inductive IsEntry : Json → Conversion → Prop
  | type {type : String} : IsEntry (.text (some type)) ⟨type, "\x7bfield\x7d"⟩
  | detailed {members : List (String × Json)} {type : String} {accessor : Option String} :
      OnlyUnder members "type" (.text (some type)) →
      OptionalMember IsNullableText members "accessor" accessor →
      IsEntry (.ofMembers members) ⟨type, accessor.getD "\x7bfield\x7d"⟩

/-- What may stand for the wrapper: null, an object, or an array of up to three parts in order. -/
inductive IsWrapper : Json → Option Wrapper → Prop
  | null : IsWrapper .null none
  | named {members : List (String × Json)} {opening closing accessor : Option String} :
      OptionalMember IsText members "prefix" opening →
      OptionalMember IsText members "suffix" closing →
      OptionalMember IsNullableText members "accessor" accessor →
      IsWrapper (.ofMembers members) (some ⟨opening.getD "", closing.getD "", accessor⟩)
  | nothing : IsWrapper (.array []) (some ⟨"", "", none⟩)
  | opening {opening : String} :
      IsWrapper (.array [.text (some opening)]) (some ⟨opening, "", none⟩)
  | ends {opening closing : String} :
      IsWrapper (.array [.text (some opening), .text (some closing)])
        (some ⟨opening, closing, none⟩)
  | all {opening closing : String} {third : Json} {accessor : Option String} :
      IsNullableText third accessor →
      IsWrapper (.array [.text (some opening), .text (some closing), third])
        (some ⟨opening, closing, accessor⟩)

theorem valuesNamed_eq_nil : valuesNamed name members = [] ↔ Lacks members name := by
  simp [valuesNamed, Lacks, List.filter_eq_nil_iff]

theorem valuesNamed_eq_singleton :
    valuesNamed name members = [value] ↔ OnlyUnder members name value := by
  rw [valuesNamed, List.map_eq_singleton_iff]
  constructor
  · rintro ⟨member, found, rfl⟩
    obtain ⟨before, after, rfl, free, named, rest⟩ := List.filter_eq_cons_iff.mp found
    obtain rfl : member.1 = name := by simpa using named
    exact ⟨before, after, rfl, by simpa [Lacks] using free,
      by simpa [Lacks, List.filter_eq_nil_iff] using rest⟩
  · rintro ⟨before, after, rfl, free, rest⟩
    refine ⟨(name, value), ?_, rfl⟩
    refine List.filter_eq_cons_iff.mpr ⟨before, after, rfl, ?_, by simp, ?_⟩
    · simpa [Lacks] using free
    · simpa [Lacks, List.filter_eq_nil_iff] using rest

theorem optionalMember?_eq_some_iff {α : Type} {read? : Json → Option (Option α)}
    {shape : Json → Option α → Prop} {read : Option α}
    (shaped : ∀ value read, read? value = some read ↔ shape value read) :
    optionalMember? read? members name = some read ↔ OptionalMember shape members name read := by
  constructor
  · intro found
    rw [optionalMember?] at found
    split at found
    next none =>
      rw [← Option.some.inj found]
      exact .absent (valuesNamed_eq_nil.mp none)
    next value single =>
      exact .given (valuesNamed_eq_singleton.mp single) ((shaped value read).mp found)
    next => contradiction
  · intro member
    cases member with
    | absent lacks => rw [optionalMember?, valuesNamed_eq_nil.mpr lacks]
    | given only shape =>
        rw [optionalMember?, valuesNamed_eq_singleton.mpr only]
        exact (shaped _ _).mpr shape

theorem text?_eq_some_iff (value : Json) (read : Option String) :
    text? value = some read ↔ IsText value read := by
  constructor
  · intro found
    unfold text? at found
    split at found
    next =>
      rw [← Option.some.inj found]
      exact .text
    next => contradiction
  · rintro ⟨⟩
    rfl

theorem nullableText?_eq_some_iff (value : Json) (read : Option String) :
    nullableText? value = some read ↔ IsNullableText value read := by
  constructor
  · intro found
    unfold nullableText? at found
    split at found
    next =>
      rw [← Option.some.inj found]
      exact .null
    next =>
      rw [← Option.some.inj found]
      exact .text
    next => contradiction
  · rintro (_ | _) <;> rfl

theorem namedMembers?_eq_some {written : List (Option String × Json)} :
    namedMembers? written = some members ↔ Json.object written = .ofMembers members := by
  rw [namedMembers?, Wire.mapM_eq_some, Json.ofMembers, Json.object.injEq]
  constructor
  · intro named
    induction named with
    | nil => rfl
    | cons read _ ih =>
        obtain ⟨name, given, rfl⟩ := Option.map_eq_some_iff.mp read
        rw [List.map_cons, ← ih, ← given]
  · rintro rfl
    rw [List.forall₂_map_left_iff, List.forall₂_same]
    exact fun member _ => rfl

theorem conversion?_eq_some_iff {conversion : Conversion} :
    conversion? value = some conversion ↔ IsEntry value conversion := by
  constructor
  · intro found
    cases value with
    | text value =>
        cases value with
        | none => contradiction
        | some type =>
            rw [← Option.some.inj found]
            exact .type
    | object written =>
        obtain ⟨members, named, typed⟩ := Option.bind_eq_some_iff.mp found
        obtain ⟨_, typeMember, required⟩ := Option.bind_eq_some_iff.mp typed
        obtain ⟨type, rfl, reached⟩ := Option.bind_eq_some_iff.mp required
        obtain ⟨accessor, accessorMember, made⟩ := Option.bind_eq_some_iff.mp reached
        rw [namedMembers?_eq_some.mp named, ← Option.some.inj made]
        cases (optionalMember?_eq_some_iff text?_eq_some_iff).mp typeMember with
        | given only shape =>
            cases shape
            exact .detailed only
              ((optionalMember?_eq_some_iff nullableText?_eq_some_iff).mp accessorMember)
    | null | bool | number | array => contradiction
  · intro entry
    cases entry with
    | type => rfl
    | detailed only accessor =>
        rw [Json.ofMembers, conversion?, namedMembers?_eq_some.mpr rfl]
        simp [(optionalMember?_eq_some_iff text?_eq_some_iff).mpr (.given only .text),
          (optionalMember?_eq_some_iff nullableText?_eq_some_iff).mpr accessor,
          Conversion.defaultAccessor]

theorem wrapper?_eq_some_iff (value : Json) (wrapper : Option Wrapper) :
    wrapper? value = some wrapper ↔ IsWrapper value wrapper := by
  constructor
  · intro found
    unfold wrapper? at found
    split at found
    case h_1 =>
      rw [← Option.some.inj found]
      exact .null
    case h_2 written =>
      obtain ⟨members, named, opened⟩ := Option.bind_eq_some_iff.mp found
      obtain ⟨opening, openingMember, closed⟩ := Option.bind_eq_some_iff.mp opened
      obtain ⟨closing, closingMember, reached⟩ := Option.bind_eq_some_iff.mp closed
      obtain ⟨accessor, accessorMember, made⟩ := Option.bind_eq_some_iff.mp reached
      rw [namedMembers?_eq_some.mp named, ← Option.some.inj made]
      exact .named ((optionalMember?_eq_some_iff text?_eq_some_iff).mp openingMember)
        ((optionalMember?_eq_some_iff text?_eq_some_iff).mp closingMember)
        ((optionalMember?_eq_some_iff nullableText?_eq_some_iff).mp accessorMember)
    case h_3 =>
      rw [← Option.some.inj found]
      exact .nothing
    case h_4 =>
      rw [← Option.some.inj found]
      exact .opening
    case h_5 =>
      rw [← Option.some.inj found]
      exact .ends
    case h_6 opening closing third =>
      obtain ⟨accessor, accessorText, rfl⟩ := Option.map_eq_some_iff.mp found
      exact .all ((nullableText?_eq_some_iff third accessor).mp accessorText)
    case h_7 => contradiction
  · intro shape
    cases shape with
    | named opening closing accessor =>
        rw [Json.ofMembers, wrapper?, namedMembers?_eq_some.mpr rfl]
        simp [(optionalMember?_eq_some_iff text?_eq_some_iff).mpr opening,
          (optionalMember?_eq_some_iff text?_eq_some_iff).mpr closing,
          (optionalMember?_eq_some_iff nullableText?_eq_some_iff).mpr accessor]
    | all accessor => rw [wrapper?, (nullableText?_eq_some_iff _ _).mpr accessor, Option.map_some]
    | null | nothing | opening | ends => rfl

theorem repeated_eq_some_iff {wrapper : Option Wrapper} :
    optionalMember? wrapper? members repeatedName = some wrapper ↔
      OptionalMember IsWrapper members "repeated" wrapper :=
  optionalMember?_eq_some_iff wrapper?_eq_some_iff

def withEntries (table : ConversionTable) (entries : List (String × Conversion)) :
    ConversionTable :=
  entries.foldl (fun table entry => table.insert entry.1 entry.2) table

def AreEntries : List (String × Json) → List (String × Conversion) → Prop :=
  List.Forall₂ fun member entry => (conversion? member.2).map (member.1, ·) = some entry

theorem ofMembers?_eq_some {table : ConversionTable} :
    ofMembers? members = some table ↔
      ∃ repeated entries, OptionalMember IsWrapper members "repeated" repeated ∧
        AreEntries (members.filter (·.1 != "repeated")) entries ∧
        table = withEntries ⟨[], repeated⟩ entries := by
  constructor
  · intro found
    obtain ⟨repeated, wraps, rest⟩ := Option.bind_eq_some_iff.mp found
    obtain ⟨entries, read, made⟩ := Option.bind_eq_some_iff.mp rest
    exact ⟨repeated, entries, repeated_eq_some_iff.mp wraps, Wire.mapM_eq_some.mp read,
      (Option.some.inj made).symm⟩
  · rintro ⟨repeated, entries, wraps, entered, rfl⟩
    exact Option.bind_eq_some_iff.mpr ⟨repeated, repeated_eq_some_iff.mpr wraps,
      Option.bind_eq_some_iff.mpr ⟨entries, Wire.mapM_eq_some.mpr entered, rfl⟩⟩

section Entries

variable {table : ConversionTable} {entries : List (String × Conversion)}

theorem get?_insert (kind : String) (conversion : Conversion) (other : String) :
    (table.insert kind conversion).get? other =
      if kind = other then some conversion else table.get? other := by
  rw [insert, get?, lookup_cons_eq]
  by_cases same : kind = other
  · rw [if_pos same, if_pos same]
  · rw [if_neg same, if_neg same, lookup_filter_ne (Ne.symm same), get?]

theorem insert_distinct (distinct : (table.entries.map (·.1)).Nodup) (kind : String)
    (conversion : Conversion) : ((table.insert kind conversion).entries.map (·.1)).Nodup := by
  rw [insert, List.map_cons, List.nodup_cons]
  constructor
  · simp
  · exact distinct.sublist (List.filter_sublist.map _)

theorem withEntries_concat (front : List (String × Conversion)) (last : String × Conversion) :
    table.withEntries (front ++ [last]) = (table.withEntries front).insert last.1 last.2 := by
  rw [withEntries, List.foldl_append, List.foldl_cons, List.foldl_nil, withEntries]

theorem get?_withEntries (table : ConversionTable) (entries : List (String × Conversion))
    (kind : String) :
    (table.withEntries entries).get? kind =
      (entries.reverse.lookup kind).or (table.get? kind) := by
  induction entries using List.reverseRecOn with
  | nil => rfl
  | append_singleton front last ih =>
      rw [withEntries_concat, get?_insert, lookup_reverse_concat, ih]
      by_cases same : last.1 = kind
      · rw [if_pos same, if_pos same, Option.some_or]
      · rw [if_neg same, if_neg same]

theorem withEntries_distinct (distinct : (table.entries.map (·.1)).Nodup)
    (entries : List (String × Conversion)) :
    ((table.withEntries entries).entries.map (·.1)).Nodup := by
  induction entries using List.reverseRecOn with
  | nil => exact distinct
  | append_singleton front last ih =>
      rw [withEntries_concat]
      exact insert_distinct ih last.1 last.2

theorem withEntries_repeated (table : ConversionTable) (entries : List (String × Conversion)) :
    (table.withEntries entries).repeated = table.repeated := by
  induction entries using List.reverseRecOn with
  | nil => rfl
  | append_singleton front last ih =>
      rw [withEntries_concat, ← ih]
      rfl

theorem AreEntries.lookup (entered : AreEntries members entries) (kind : String) :
    entries.lookup kind = (members.lookup kind).bind conversion? := by
  induction entered with
  | nil => rfl
  | @cons member entry members entries read _ ih =>
      obtain ⟨conversion, found, rfl⟩ := Option.map_eq_some_iff.mp read
      rw [lookup_cons_eq, lookup_cons_eq, ih]
      by_cases same : member.1 = kind
      · rw [if_pos same, if_pos same, Option.bind_some, found]
      · rw [if_neg same, if_neg same]

theorem exists_areEntries_iff :
    (∃ entries, AreEntries members entries) ↔
      ∀ member ∈ members, ∃ conversion, IsEntry member.2 conversion := by
  simp only [AreEntries, Wire.exists_forall₂_iff, Option.map_eq_some_iff, conversion?_eq_some_iff]
  refine forall₂_congr fun member _ => ?_
  constructor
  · rintro ⟨_, conversion, entry, _⟩
    exact ⟨conversion, entry⟩
  · rintro ⟨conversion, entry⟩
    exact ⟨_, conversion, entry, rfl⟩

end Entries

structure WellFormed (members : List (String × Json)) : Prop where
  wrapper : ∃ wrapper, OptionalMember IsWrapper members "repeated" wrapper
  entries : ∀ member ∈ members, member.1 ≠ "repeated" → ∃ conversion, IsEntry member.2 conversion

structure Holds (members : List (String × Json)) (table : ConversionTable) : Prop where
  distinct : (table.entries.map (·.1)).Nodup
  repeated : table.get? "repeated" = none
  entry : ∀ kind, kind ≠ "repeated" → ∀ conversion, table.get? kind = some conversion ↔
    ∃ value, LastUnder members kind value ∧ IsEntry value conversion
  missing : ∀ kind, kind ≠ "repeated" → (table.get? kind = none ↔ Lacks members kind)
  size : table.size = ((members.map (·.1)).filter (· ≠ "repeated")).dedup.length
  wrapper : OptionalMember IsWrapper members "repeated" table.repeated
  unwrapped : table.repeated = none ↔
    Lacks members "repeated" ∨ OnlyUnder members "repeated" .null

theorem ofMembers?_succeeds_iff :
    (∃ table, ofMembers? members = some table) ↔ WellFormed members := by
  constructor
  · rintro ⟨table, made⟩
    obtain ⟨repeated, entries, wraps, entered, _⟩ := ofMembers?_eq_some.mp made
    refine ⟨⟨repeated, wraps⟩, fun member among differs => ?_⟩
    have kept : member ∈ members.filter (·.1 != "repeated") := by simp [among, differs]
    exact exists_areEntries_iff.mp ⟨entries, entered⟩ member kept
  · rintro ⟨⟨repeated, wraps⟩, shapes⟩
    have kept : ∀ member ∈ members.filter (·.1 != "repeated"),
        ∃ conversion, IsEntry member.2 conversion := by
      intro member among
      obtain ⟨among, differs⟩ := List.mem_filter.mp among
      exact shapes member among (by simpa using differs)
    obtain ⟨entries, entered⟩ := exists_areEntries_iff.mpr kept
    exact ⟨_, ofMembers?_eq_some.mpr ⟨repeated, entries, wraps, entered, rfl⟩⟩

section Contents

variable {table : ConversionTable} (made : ofMembers? members = some table)

include made

theorem get?_of_made (kind : String) :
    table.get? kind =
      if kind = "repeated" then none else (members.reverse.lookup kind).bind conversion? := by
  obtain ⟨repeated, entries, _, entered, rfl⟩ := ofMembers?_eq_some.mp made
  have entry := AreEntries.lookup (List.rel_reverse entered) kind
  rw [get?_withEntries, entry, ← List.filter_reverse]
  by_cases same : kind = "repeated"
  · have gone : (members.reverse.filter (·.1 != "repeated")).lookup kind = none := by
      rw [List.lookup_eq_none_iff]
      intro member among
      obtain ⟨_, differs⟩ := List.mem_filter.mp among
      rwa [same, bne_comm]
    rw [if_pos same, gone]
    rfl
  · rw [if_neg same, lookup_filter_ne same]
    exact Option.or_none

theorem repeated_of_made : OptionalMember IsWrapper members "repeated" table.repeated := by
  obtain ⟨repeated, entries, wraps, _, rfl⟩ := ofMembers?_eq_some.mp made
  rwa [withEntries_repeated]

theorem distinct_of_made : (table.entries.map (·.1)).Nodup := by
  obtain ⟨repeated, entries, _, _, rfl⟩ := ofMembers?_eq_some.mp made
  have empty : ((⟨[], repeated⟩ : ConversionTable).entries.map (·.1)).Nodup := List.nodup_nil
  exact withEntries_distinct empty entries

theorem get?_eq_none_of_made {kind : String} (differs : kind ≠ "repeated") :
    table.get? kind = none ↔ Lacks members kind := by
  rw [get?_of_made made, if_neg differs]
  constructor
  · intro missing
    by_contra present
    obtain ⟨value, last⟩ := not_lacks_iff_exists_lastUnder.mp present
    have found := lookup_reverse_eq_some.mpr last
    have among : (kind, value) ∈ members := List.mem_reverse.mp (mem_of_lookup found)
    obtain ⟨conversion, entry⟩ :=
      (ofMembers?_succeeds_iff.mp ⟨table, made⟩).entries _ among differs
    rw [found, Option.bind_some, conversion?_eq_some_iff.mpr entry] at missing
    contradiction
  · intro lacks
    rw [lookup_reverse_eq_none.mpr lacks, Option.bind_none]

theorem mem_kinds_of_made {kind : String} :
    kind ∈ table.entries.map (·.1) ↔
      kind ∈ (members.map (·.1)).filter (· ≠ "repeated") := by
  rw [mem_keys_iff, ← Option.ne_none_iff_exists', List.mem_filter, decide_eq_true_iff]
  have same : table.entries.lookup kind = table.get? kind := rfl
  rw [same]
  by_cases differs : kind = "repeated"
  · simp [get?_of_made made, differs]
  · rw [Ne, get?_eq_none_of_made made differs]
    simp [Lacks, differs]

theorem size_of_made :
    table.size = ((members.map (·.1)).filter (· ≠ "repeated")).dedup.length := by
  have same : (table.entries.map (·.1)).Perm
      ((members.map (·.1)).filter (· ≠ "repeated")).dedup := by
    rw [List.perm_ext_iff_of_nodup (distinct_of_made made) (List.nodup_dedup _)]
    intro kind
    rw [mem_kinds_of_made made, List.mem_dedup]
  rw [size, ← same.length_eq, List.length_map]

theorem repeated_eq_none_of_made :
    table.repeated = none ↔ Lacks members "repeated" ∨ OnlyUnder members "repeated" .null := by
  have wraps := repeated_of_made made
  constructor
  · intro unwrapped
    rw [unwrapped] at wraps
    cases wraps with
    | absent lacks => exact .inl lacks
    | given only shape =>
        cases shape
        exact .inr only
  · intro without
    have none : OptionalMember IsWrapper members "repeated" none := by
      rcases without with lacks | only
      · exact .absent lacks
      · exact .given only .null
    rw [← repeated_eq_some_iff] at wraps none
    rw [wraps] at none
    exact Option.some.inj none

theorem holds_of_made : Holds members table where
  distinct := distinct_of_made made
  repeated := by rw [get?_of_made made, if_pos rfl]
  entry := by
    intro kind differs conversion
    rw [get?_of_made made, if_neg differs, Option.bind_eq_some_iff]
    simp only [lookup_reverse_eq_some, conversion?_eq_some_iff]
  missing _ := get?_eq_none_of_made made
  size := size_of_made made
  wrapper := repeated_of_made made
  unwrapped := repeated_eq_none_of_made made

end Contents

/-- All that is not part of the wrapper can be read. With the table itself there are up to 127
levels. -/
def Readable (members : List (String × Json)) : Prop :=
  ∀ member ∈ members, member.1 ≠ "repeated" → member.2.IsReadable 126

theorem all_sound_iff : (members.all fun member =>
    member.1 == repeatedName || member.2.sound nestingLimit) = true ↔ Readable members := by
  rw [List.all_eq_true, Readable]
  refine forall₂_congr fun member _ => ?_
  rw [Bool.or_eq_true, beq_iff_eq, or_iff_not_imp_left, Json.sound_iff]
  rfl

theorem ofJson?_eq_some {table : ConversionTable} :
    ofJson? (.ofMembers members) = some table ↔
      Readable members ∧ ofMembers? members = some table := by
  rw [Json.ofMembers, ofJson?, namedMembers?_eq_some.mpr rfl, ← all_sound_iff]
  by_cases sound : (members.all fun member =>
      member.1 == repeatedName || member.2.sound nestingLimit) = true
  · simp [sound]
  · simp [sound]

section Source

variable {source : String} {wording : Wording}
variable (text : Json.parse? source = some (.ofMembers members))

theorem parse_eq_error {error : Error} (failed : parse source wording = .error error) :
    error = .tableMalformed wording.table := by
  rw [parse] at failed
  split at failed
  · contradiction
  · exact (Except.error.inj failed).symm

include text

theorem parse_eq_ok {table : ConversionTable} :
    parse source wording = .ok table ↔ Readable members ∧ ofMembers? members = some table := by
  rw [← ofJson?_eq_some, parse, text, Option.bind_some]
  cases ofJson? (.ofMembers members) <;> simp

theorem parse_succeeds_iff :
    (∃ table, parse source wording = .ok table) ↔ WellFormed members ∧ Readable members := by
  simp only [parse_eq_ok text, ← ofMembers?_succeeds_iff]
  constructor
  · rintro ⟨table, readable, made⟩
    exact ⟨⟨table, made⟩, readable⟩
  · rintro ⟨⟨table, made⟩, readable⟩
    exact ⟨table, readable, made⟩

end Source

/-- The same entries, in whatever order, and the same wrapper, or no table at all. -/
inductive SameTable : Except Error ConversionTable → Except Error ConversionTable → Prop
  | table {first second : ConversionTable} : first.entries.Perm second.entries →
      first.repeated = second.repeated → SameTable (.ok first) (.ok second)
  | failure {error : Error} : SameTable (.error error) (.error error)

theorem optionalMember?_congr {α : Type} (read? : Json → Option (Option α))
    (same : SameByKey members others) (name : String) :
    optionalMember? read? members name = optionalMember? read? others name := by
  rw [optionalMember?, optionalMember?, valuesNamed, valuesNamed, same name]

theorem WellFormed.of_sameByKey (formed : WellFormed members) (same : SameByKey members others) :
    WellFormed others := by
  obtain ⟨wrapper, wraps⟩ := formed.wrapper
  refine ⟨⟨wrapper, ?_⟩, fun member among => formed.entries member ((same.mem_iff member).mpr among)⟩
  rwa [← repeated_eq_some_iff, ← optionalMember?_congr wrapper? same repeatedName,
    repeated_eq_some_iff]

theorem entries_perm {first second : ConversionTable}
    (distinctFirst : (first.entries.map (·.1)).Nodup)
    (distinctSecond : (second.entries.map (·.1)).Nodup)
    (same : ∀ kind, first.get? kind = second.get? kind) : first.entries.Perm second.entries := by
  rw [List.perm_ext_iff_of_nodup distinctFirst.of_map distinctSecond.of_map]
  rintro ⟨kind, conversion⟩
  rw [mem_iff_lookup distinctFirst, mem_iff_lookup distinctSecond]
  exact Eq.congr_left (same kind)

theorem Readable.of_sameByKey (readable : Readable members) (same : SameByKey members others) :
    Readable others :=
  fun member among => readable member ((same.mem_iff member).mpr among)

theorem sameTable_of_sameByKey {source other : String} {wording : Wording}
    (text : Json.parse? source = some (.ofMembers members))
    (otherText : Json.parse? other = some (.ofMembers others)) (same : SameByKey members others) :
    SameTable (parse source wording) (parse other wording) := by
  have succeeds : (∃ table, parse source wording = .ok table) ↔
      ∃ table, parse other wording = .ok table := by
    rw [parse_succeeds_iff text, parse_succeeds_iff otherText]
    exact ⟨fun ⟨formed, readable⟩ => ⟨formed.of_sameByKey same, readable.of_sameByKey same⟩,
      fun ⟨formed, readable⟩ =>
        ⟨formed.of_sameByKey same.symm, readable.of_sameByKey same.symm⟩⟩
  cases parsed : parse source wording with
  | error error =>
      cases otherParsed : parse other wording with
      | error otherError =>
          rw [parse_eq_error parsed, parse_eq_error otherParsed]
          exact .failure
      | ok table => simp [parsed, otherParsed] at succeeds
  | ok first =>
      cases otherParsed : parse other wording with
      | error otherError => simp [parsed, otherParsed] at succeeds
      | ok second =>
          have made := ((parse_eq_ok text).mp parsed).2
          have otherMade := ((parse_eq_ok otherText).mp otherParsed).2
          refine .table (entries_perm (distinct_of_made made) (distinct_of_made otherMade) ?_) ?_
          · intro kind
            rw [get?_of_made made, get?_of_made otherMade, same.lookup_reverse]
          · have wraps := repeated_eq_some_iff.mpr (repeated_of_made made)
            have otherWraps := repeated_eq_some_iff.mpr (repeated_of_made otherMade)
            rw [optionalMember?_congr wrapper? same repeatedName, otherWraps] at wraps
            exact (Option.some.inj wraps).symm

/-- An object is a table when every member has its shape, shadowed ones included, and all that is
not skipped can be read. -/
theorem parse_members {source : String} (wording : Wording)
    (text : Json.parse? source = some (.ofMembers members)) :
    ((∃ table, parse source wording = .ok table) ↔ WellFormed members ∧ Readable members) ∧
    (∀ table, parse source wording = .ok table → Holds members table) ∧
    (∀ error, parse source wording = .error error → error.kind = .configuration) ∧
    (∀ other others, Json.parse? other = some (.ofMembers others) → SameByKey members others →
      SameTable (parse source wording) (parse other wording)) ∧
    ∀ other others, Json.parse? other = some (.ofMembers others) → members.Perm others →
      (members.map (·.1)).Nodup → SameTable (parse source wording) (parse other wording) := by
  refine ⟨parse_succeeds_iff text, ?_, ?_, ?_, ?_⟩
  · intro table parsed
    exact holds_of_made ((parse_eq_ok text).mp parsed).2
  · intro error failed
    rw [parse_eq_error failed]
    rfl
  · intro other others otherText same
    exact sameTable_of_sameByKey text otherText same
  · intro other others otherText permuted distinct
    exact sameTable_of_sameByKey text otherText (.of_perm permuted distinct)

def gaugeText : String :=
  "\x7b\"TYPE_INT32\":\"int\",\"repeated\":[\"vector<\",\">\"]," ++
    "\"TYPE_INT32\":\x7b\"type\":\"long\"\x7d\x7d"

def gaugeMembers : List (String × Json) := [
  ("TYPE_INT32", .text (some "int")),
  ("repeated", .array [.text (some "vector<"), .text (some ">")]),
  ("TYPE_INT32", .ofMembers [("type", .text (some "long"))])]

def gaugeTable : ConversionTable where
  entries := [("TYPE_INT32", ⟨"long", "\x7bfield\x7d"⟩)]
  repeated := some ⟨"vector<", ">", none⟩

theorem gaugeText_parse? : Json.parse? gaugeText = some (.ofMembers gaugeMembers) := by
  have tokens : Json.tokens? gaugeText.toList = some [.openObject, .text (some "TYPE_INT32"),
      .colon, .text (some "int"), .comma, .text (some "repeated"), .colon, .openArray,
      .text (some "vector<"), .comma, .text (some ">"), .closeArray, .comma,
      .text (some "TYPE_INT32"), .colon, .openObject, .text (some "type"), .colon,
      .text (some "long"), .closeObject, .closeObject] := by
    decide +kernel
  rw [Json.parse?, tokens]
  rfl

theorem gaugeText_members :
    parse gaugeText {} = .ok gaugeTable ∧ WellFormed gaugeMembers ∧ Readable gaugeMembers ∧
      Holds gaugeMembers gaugeTable := by
  have made : parse gaugeText {} = .ok gaugeTable := by
    rw [parse, gaugeText_parse?]
    rfl
  obtain ⟨accepted, holds, _⟩ := parse_members {} gaugeText_parse?
  obtain ⟨formed, readable⟩ := accepted.mp ⟨_, made⟩
  exact ⟨made, formed, readable, holds _ made⟩

def overflowText : String :=
  "\x7b\"TYPE_BOOL\":\x7b\"type\":\"bool\",\"note\":1e999\x7d\x7d"

def overflowMembers : List (String × Json) := [
  ("TYPE_BOOL", .ofMembers [("type", .text (some "bool")), ("note", .number false)])]

theorem overflowText_refused :
    Json.parse? overflowText = some (.ofMembers overflowMembers) ∧ WellFormed overflowMembers ∧
      (parse overflowText {}).toOption = none := by
  have tokens : Json.tokens? overflowText.toList = some [.openObject, .text (some "TYPE_BOOL"),
      .colon, .openObject, .text (some "type"), .colon, .text (some "bool"), .comma,
      .text (some "note"), .colon, .number false, .closeObject, .closeObject] := by
    decide +kernel
  have parsed : Json.parse? overflowText = some (.ofMembers overflowMembers) := by
    rw [Json.parse?, tokens]
    rfl
  refine ⟨parsed, ofMembers?_succeeds_iff.mp ⟨_, rfl⟩, ?_⟩
  rw [parse, parsed]
  rfl

end ConversionTable
end BindingPress
