import Mathlib.Data.List.Nodup
import Mathlib.Data.List.Perm.Basic

/-!
Entries under keys, where the last entry under a key counts: which entry that is, and that entries
under different keys may change places.
-/

namespace BindingPress

section Search

variable {α β : Type} {elements : List α}

theorem findSome?_eq_some_of_unique {f : α → Option β} {result : β}
    (found : ∃ element ∈ elements, f element = some result)
    (unique : ∀ element ∈ elements, ∀ other, f element = some other → other = result) :
    elements.findSome? f = some result := by
  obtain ⟨element, member, given⟩ := found
  have succeeds : (elements.findSome? f).isSome = true :=
    List.findSome?_isSome_iff.mpr ⟨element, member, by simp [given]⟩
  obtain ⟨first, reached⟩ := Option.isSome_iff_exists.mp succeeds
  obtain ⟨source, among, same⟩ := List.exists_of_findSome?_eq_some reached
  rw [reached, unique source among first same]

variable [BEq α] [LawfulBEq α] {entries : List (α × β)} {key : α} {value : β}

theorem lookup_eq_some_of_unique (member : (key, value) ∈ entries)
    (unique : ∀ other, (key, other) ∈ entries → other = value) :
    entries.lookup key = some value := by
  rw [List.lookup_eq_findSome?]
  refine findSome?_eq_some_of_unique ⟨(key, value), member, by simp⟩ ?_
  rintro ⟨place, held⟩ among other same
  obtain ⟨rfl, rfl⟩ : key = place ∧ held = other := by simpa using same
  exact unique _ among

theorem mem_of_lookup (found : entries.lookup key = some value) : (key, value) ∈ entries := by
  obtain ⟨front, back, split, _⟩ := List.lookup_eq_some_iff.mp found
  rw [split]
  simp

theorem mem_iff_lookup (distinct : (entries.map (·.1)).Nodup) :
    (key, value) ∈ entries ↔ entries.lookup key = some value := by
  constructor
  · intro member
    refine lookup_eq_some_of_unique member fun other among => ?_
    have same := List.inj_on_of_nodup_map distinct among member rfl
    exact (Prod.mk.inj same).2
  · exact mem_of_lookup

theorem mem_keys_iff : key ∈ entries.map (·.1) ↔ ∃ value, entries.lookup key = some value := by
  rw [← Option.ne_none_iff_exists', Ne, List.lookup_eq_none_iff]
  simp

end Search

variable {β : Type} {entries others : List (String × β)} {key : String} {value : β}

def Lacks (entries : List (String × β)) (key : String) : Prop :=
  ∀ entry ∈ entries, entry.1 ≠ key

def LastUnder (entries : List (String × β)) (key : String) (value : β) : Prop :=
  ∃ before after, entries = before ++ (key, value) :: after ∧ Lacks after key

def OnlyUnder (entries : List (String × β)) (key : String) (value : β) : Prop :=
  ∃ before after, entries = before ++ (key, value) :: after ∧ Lacks before key ∧ Lacks after key

/-- Under every key there are the same entries, in the same order. -/
def SameByKey (entries others : List (String × β)) : Prop :=
  ∀ key, entries.filter (·.1 == key) = others.filter (·.1 == key)

theorem lookup_cons_eq (entry : String × β) (rest : List (String × β)) (key : String) :
    (entry :: rest).lookup key = if entry.1 = key then some entry.2 else rest.lookup key := by
  rw [List.lookup_cons]
  by_cases same : entry.1 = key
  · rw [if_pos same, same, beq_self_eq_true]
  · rw [if_neg same, beq_false_of_ne (Ne.symm same)]

theorem lookup_reverse_eq_none : entries.reverse.lookup key = none ↔ Lacks entries key := by
  simp only [List.lookup_eq_none_iff, List.mem_reverse, bne_iff_ne, Lacks, ne_comm]

theorem lookup_reverse_eq_some :
    entries.reverse.lookup key = some value ↔ LastUnder entries key value := by
  simp only [List.lookup_eq_some_iff, bne_iff_ne]
  constructor
  · rintro ⟨after, before, split, free⟩
    refine ⟨before.reverse, after.reverse, ?_, ?_⟩
    · rw [← entries.reverse_reverse, split]
      simp
    · exact fun entry member => (free entry (List.mem_reverse.mp member)).symm
  · rintro ⟨before, after, rfl, free⟩
    refine ⟨after.reverse, before.reverse, by simp, ?_⟩
    exact fun entry member => (free entry (List.mem_reverse.mp member)).symm

theorem lookup_reverse_concat (entries : List (String × β)) (last : String × β) (key : String) :
    (entries ++ [last]).reverse.lookup key =
      if last.1 = key then some last.2 else entries.reverse.lookup key := by
  rw [List.reverse_append, List.reverse_singleton, List.singleton_append, lookup_cons_eq]

theorem not_lacks_iff_exists_lastUnder :
    ¬Lacks entries key ↔ ∃ value, LastUnder entries key value := by
  rw [← lookup_reverse_eq_none, ← Ne, Option.ne_none_iff_exists']
  simp only [lookup_reverse_eq_some]

theorem lookup_filter_ne {kind other : String} (differs : other ≠ kind) :
    (entries.filter (·.1 != kind)).lookup other = entries.lookup other := by
  induction entries with
  | nil => rfl
  | cons entry rest ih =>
      by_cases same : entry.1 = kind
      · rw [List.filter_cons_of_neg (by simpa using same), ih, lookup_cons_eq,
          if_neg (same.trans_ne differs.symm)]
      · rw [List.filter_cons_of_pos (by simpa using same), lookup_cons_eq, lookup_cons_eq, ih]

theorem lookup_filter_self (entries : List (String × β)) (key : String) :
    (entries.filter (·.1 == key)).lookup key = entries.lookup key := by
  induction entries with
  | nil => rfl
  | cons entry rest ih =>
      by_cases same : entry.1 = key
      · rw [List.filter_cons_of_pos (by simpa using same), lookup_cons_eq, lookup_cons_eq,
          if_pos same, if_pos same]
      · rw [List.filter_cons_of_neg (by simpa using same), ih, lookup_cons_eq, if_neg same]

theorem SameByKey.symm (same : SameByKey entries others) : SameByKey others entries :=
  fun key => (same key).symm

theorem SameByKey.mem_iff (same : SameByKey entries others) (entry : String × β) :
    entry ∈ entries ↔ entry ∈ others := by
  have among := congrArg (entry ∈ ·) (same entry.1)
  simpa using among

theorem SameByKey.lookup_reverse (same : SameByKey entries others) (key : String) :
    entries.reverse.lookup key = others.reverse.lookup key := by
  rw [← lookup_filter_self, List.filter_reverse, same key, ← List.filter_reverse,
    lookup_filter_self]

theorem SameByKey.of_perm (permuted : entries.Perm others)
    (distinct : (entries.map (·.1)).Nodup) : SameByKey entries others := by
  intro key
  have kept := permuted.filter (·.1 == key)
  have alone : ((entries.filter (·.1 == key)).map (·.1)).Nodup :=
    distinct.sublist (List.filter_sublist.map _)
  have named : ∀ entry ∈ entries.filter (·.1 == key), entry.1 = key := by simp
  revert kept alone named
  generalize entries.filter (·.1 == key) = found
  intro kept alone named
  match found with
  | [] => exact kept.nil_eq
  | [entry] => exact List.singleton_perm.mp kept
  | first :: second :: rest =>
      have equal : first.1 = second.1 := by
        rw [named first (by simp), named second (by simp)]
      simp [equal] at alone

end BindingPress
