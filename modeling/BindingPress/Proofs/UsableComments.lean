import BindingPress.Proofs.Cleaning
import BindingPress.Proofs.LastEntry
import BindingPress.Proofs.Places
import Mathlib.Data.Set.Card

/-!
Which comment documents a place. Of the comments of one location one is selected, and of all
locations at a place the first one counts whose selected comment is usable.
-/

namespace BindingPress

namespace Location

variable {location : Location} {comment : String}

def LacksLeading (location : Location) : Prop :=
  ∀ comment, location.leading = some comment → ¬IsUsable comment

/-- The comment that a location gives, usable or not: only a leading one is passed over for being
blank. -/
inductive Selects (location : Location) : String → Prop
  | leading {comment : String} : location.leading = some comment → IsUsable comment →
      Selects location comment
  | detached {earlier : List String} {comment : String} : location.LacksLeading →
      location.detached = earlier ++ [comment] → Selects location comment
  | trailing {comment : String} : location.LacksLeading → location.detached = [] →
      location.trailing = some comment → Selects location comment

theorem usableLeading_eq_some_iff :
    (location.leading.filter fun comment => Text.trim comment.toList != []) = some comment ↔
      location.leading = some comment ∧ IsUsable comment := by
  rw [Option.filter_eq_some_iff, bne_iff_ne, Ne, Text.trim_eq_nil_iff, ← not_isUsable_iff, not_not]

theorem usableLeading_eq_none_iff :
    (location.leading.filter fun comment => Text.trim comment.toList != []) = none ↔
      location.LacksLeading := by
  rw [Option.eq_none_iff_forall_ne_some]
  simp only [Ne, usableLeading_eq_some_iff, not_and, LacksLeading]

theorem comment?_eq_some_iff : location.comment? = some comment ↔ location.Selects comment := by
  rw [comment?]
  cases usable : location.leading.filter fun comment => Text.trim comment.toList != [] with
  | some leading =>
      obtain ⟨given, solid⟩ := usableLeading_eq_some_iff.mp usable
      constructor
      · intro same
        obtain rfl : leading = comment := by simpa using same
        exact .leading given solid
      · intro selects
        cases selects with
        | leading other _ => simpa [given] using other
        | detached lacks _ => exact absurd solid (lacks leading given)
        | trailing lacks _ _ => exact absurd solid (lacks leading given)
  | none =>
      have lacks := usableLeading_eq_none_iff.mp usable
      cases last : location.detached.getLast? with
      | some detached =>
          obtain ⟨earlier, listed⟩ := List.getLast?_eq_some_iff.mp last
          constructor
          · intro same
            obtain rfl : detached = comment := by simpa using same
            exact .detached lacks listed
          · intro selects
            cases selects with
            | leading given solid => exact absurd solid (lacks _ given)
            | detached _ other => simpa [other] using last.symm
            | trailing _ empty _ => simp [empty] at last
      | none =>
          have empty := List.getLast?_eq_none_iff.mp last
          constructor
          · intro same
            exact .trailing lacks empty (by simpa using same)
          · intro selects
            cases selects with
            | leading given solid => exact absurd solid (lacks _ given)
            | detached _ other => simp [other] at empty
            | trailing _ _ given => simpa using given

theorem doc?_eq_some_iff {text : String} :
    location.doc? = some text ↔
      ∃ comment, location.Selects comment ∧ IsUsable comment ∧ text = cleanComment comment := by
  rw [doc?, Option.filter_eq_some_iff, Option.map_eq_some_iff, bne_iff_ne]
  simp only [comment?_eq_some_iff]
  constructor
  · rintro ⟨⟨comment, selects, rfl⟩, kept⟩
    exact ⟨comment, selects, not_not.mp (mt cleanComment_eq_empty_iff.mpr kept), rfl⟩
  · rintro ⟨comment, selects, usable, rfl⟩
    exact ⟨⟨comment, selects, rfl⟩, usable.cleanComment_ne_empty⟩

def IsSilent (location : Location) : Prop :=
  ∀ comment, location.Selects comment → ¬IsUsable comment

theorem doc?_eq_none_iff : location.doc? = none ↔ location.IsSilent := by
  rw [Option.eq_none_iff_forall_ne_some]
  constructor
  · intro undocumented comment selects usable
    exact undocumented _ (doc?_eq_some_iff.mpr ⟨comment, selects, usable, rfl⟩)
  · intro silent text documented
    obtain ⟨comment, selects, usable, _⟩ := doc?_eq_some_iff.mp documented
    exact silent comment selects usable

end Location

namespace DocIndex

variable {locations : List Location} {path : List Int} {comment : String}

def textAt (index : DocIndex) (path : List Int) : String :=
  (index.get? path).getD ""

def FirstUsable (locations : List Location) (path : List Int) (comment : String) : Prop :=
  ∃ before location after, locations = before ++ location :: after ∧
    (∀ earlier ∈ before, earlier.path = path → earlier.IsSilent) ∧
    location.path = path ∧ location.Selects comment ∧ IsUsable comment

theorem textFor_eq_none_iff {location : Location} :
    textFor path location = none ↔ (location.path = path → location.IsSilent) := by
  rw [textFor, ← Location.doc?_eq_none_iff]
  by_cases here : location.path = path <;> simp [here]

theorem get?_eq_some_iff {text : String} :
    (ofLocations locations).get? path = some text ↔
      ∃ comment, FirstUsable locations path comment ∧ text = cleanComment comment := by
  rw [get?_ofLocations, List.findSome?_eq_some_iff]
  constructor
  · rintro ⟨before, location, after, split, found, missed⟩
    have here : location.path = path := by
      by_contra elsewhere
      simp [textFor, elsewhere] at found
    rw [textFor, if_pos here, Location.doc?_eq_some_iff] at found
    obtain ⟨comment, selects, usable, same⟩ := found
    exact ⟨comment, ⟨before, location, after, split,
      fun earlier member => textFor_eq_none_iff.mp (missed earlier member), here, selects, usable⟩,
      same⟩
  · rintro ⟨comment, ⟨before, location, after, split, silent, here, selects, usable⟩, same⟩
    refine ⟨before, location, after, split, ?_, ?_⟩
    · rw [textFor, if_pos here, Location.doc?_eq_some_iff]
      exact ⟨comment, selects, usable, same⟩
    · exact fun earlier member => textFor_eq_none_iff.mpr (silent earlier member)

theorem FirstUsable.textAt_eq (first : FirstUsable locations path comment) :
    (ofLocations locations).textAt path = cleanComment comment := by
  rw [textAt, get?_eq_some_iff.mpr ⟨comment, first, rfl⟩, Option.getD_some]

theorem textAt_eq_empty_iff :
    (ofLocations locations).textAt path = "" ↔ (ofLocations locations).get? path = none := by
  cases found : (ofLocations locations).get? path with
  | none => simp [textAt, found]
  | some text =>
      obtain ⟨comment, first, rfl⟩ := get?_eq_some_iff.mp found
      obtain ⟨_, _, _, _, _, _, _, usable⟩ := first
      simp [textAt, found, usable.cleanComment_ne_empty]

theorem ofLocations_withoutSilent {location : Location} (silent : location.IsSilent)
    (front back : List Location) :
    ofLocations (front ++ back) = ofLocations (front ++ location :: back) := by
  have undocumented := Location.doc?_eq_none_iff.mpr silent
  simp only [ofLocations, List.foldl_append, List.foldl_cons, undocumented]

theorem insert_distinct {index : DocIndex} (distinct : (index.entries.map (·.1)).Nodup)
    (path : List Int) (text : String) : ((index.insert path text).entries.map (·.1)).Nodup := by
  rw [insert]
  split
  next => exact distinct
  next absent =>
    have fresh : path ∉ index.entries.map (·.1) := by
      rw [mem_keys_iff, ← Option.isSome_iff_exists]
      exact absent
    rw [List.map_append, List.map_cons, List.map_nil, List.nodup_append_comm, List.singleton_append,
      List.nodup_cons]
    exact ⟨fresh, distinct⟩

theorem ofLocations_distinct (locations : List Location) :
    ((ofLocations locations).entries.map (·.1)).Nodup := by
  induction locations using List.reverseRecOn with
  | nil => exact List.nodup_nil
  | append_singleton front last ih =>
      rw [ofLocations_concat]
      cases last.doc? with
      | none => exact ih
      | some text => exact insert_distinct ih last.path text

theorem encard_documented (locations : List Location) :
    Set.encard {path | (ofLocations locations).textAt path ≠ ""} = (ofLocations locations).size := by
  have documented : {path | (ofLocations locations).textAt path ≠ ""} =
      (((ofLocations locations).entries.map (·.1)).toFinset : Set (List Int)) := by
    ext path
    rw [Set.mem_ofPred_eq, Ne, textAt_eq_empty_iff, List.coe_toFinset, Set.mem_ofPred_eq,
      mem_keys_iff, ← Option.ne_none_iff_exists']
    rfl
  rw [documented, Set.encard_coe_eq_coe_finsetCard,
    List.toFinset_card_of_nodup (ofLocations_distinct locations), List.length_map, size]

/-- A place is documented by its first location that is not silent; silent ones are as if they were
not there. -/
theorem ofLocations_firstUsable (locations : List Location) (path : List Int) :
    (∀ comment, FirstUsable locations path comment →
      (ofLocations locations).textAt path = cleanComment comment ∧ cleanComment comment ≠ "") ∧
    ((ofLocations locations).textAt path = "" ↔
      ∀ location ∈ locations, location.path = path → location.IsSilent) ∧
    (∀ front location back, locations = front ++ location :: back → location.IsSilent →
      ofLocations (front ++ back) = ofLocations locations) ∧
    Set.encard {path | (ofLocations locations).textAt path ≠ ""} = (ofLocations locations).size ∧
    ∀ declaration : Declaration, declaration.path = path →
      (ofLocations locations).get declaration = (ofLocations locations).textAt path := by
  refine ⟨?_, ?_, ?_, encard_documented locations, ?_⟩
  · intro comment first
    have shown := first.textAt_eq
    obtain ⟨_, _, _, _, _, _, _, usable⟩ := first
    exact ⟨shown, usable.cleanComment_ne_empty⟩
  · rw [textAt_eq_empty_iff, get?_ofLocations, List.findSome?_eq_none_iff]
    simp only [textFor_eq_none_iff]
  · rintro front location back rfl silent
    exact ofLocations_withoutSilent silent front back
  · rintro declaration rfl
    rfl

end DocIndex

namespace Location

variable {location : Location} {comment : String}

def preferred (location : Location) : List String :=
  location.leading.toList ++ location.detached.getLast?.toList ++ location.trailing.toList

def FirstPreferred (location : Location) (comment : String) : Prop :=
  ∃ before after, location.preferred = before ++ comment :: after ∧ IsUsable comment ∧
    ∀ other ∈ before, ¬IsUsable other

/-- A detached comment is selected although it is blank. -/
def SelectsBlank (location : Location) : Prop :=
  location.LacksLeading ∧ ∃ comment, location.detached.getLast? = some comment ∧ ¬IsUsable comment

theorem LacksLeading.not_isUsable (lacks : location.LacksLeading) :
    ∀ comment ∈ location.leading.toList, ¬IsUsable comment := by
  intro comment member
  exact lacks comment (Option.mem_toList.mp member)

theorem Selects.firstPreferred (selects : location.Selects comment) (usable : IsUsable comment) :
    location.FirstPreferred comment := by
  cases selects with
  | leading given _ =>
      refine ⟨[], location.detached.getLast?.toList ++ location.trailing.toList, ?_, usable, by simp⟩
      rw [preferred, given, List.append_assoc]
      rfl
  | detached lacks listed =>
      refine ⟨location.leading.toList, location.trailing.toList, ?_, usable, lacks.not_isUsable⟩
      simp [preferred, listed]
  | trailing lacks empty given =>
      refine ⟨location.leading.toList, [], ?_, usable, lacks.not_isUsable⟩
      simp [preferred, empty, given]

theorem SelectsBlank.isSilent (blank : location.SelectsBlank) : location.IsSilent := by
  obtain ⟨lacks, detached, last, unusable⟩ := blank
  intro comment selects
  cases selects with
  | leading given usable => exact absurd usable (lacks comment given)
  | detached _ listed =>
      obtain rfl : comment = detached := by simpa [listed] using last
      exact unusable
  | trailing _ empty _ => simp [empty] at last

theorem exists_selects (usable : ∃ comment ∈ location.preferred, IsUsable comment)
    (shown : ¬location.SelectsBlank) : ∃ comment, location.Selects comment ∧ IsUsable comment := by
  by_cases lacks : location.LacksLeading
  · cases last : location.detached.getLast? with
    | some detached =>
        obtain ⟨earlier, listed⟩ := List.getLast?_eq_some_iff.mp last
        refine ⟨detached, .detached lacks listed, ?_⟩
        by_contra unusable
        exact shown ⟨lacks, detached, last, unusable⟩
    | none =>
        obtain ⟨comment, member, solid⟩ := usable
        rw [preferred, last, Option.toList_none, List.append_nil, List.mem_append] at member
        rcases member with leading | trailing
        · exact absurd solid (lacks.not_isUsable comment leading)
        · exact ⟨comment, .trailing lacks (List.getLast?_eq_none_iff.mp last)
            (Option.mem_toList.mp trailing), solid⟩
  · obtain ⟨comment, given, solid⟩ : ∃ comment, location.leading = some comment ∧
        IsUsable comment := by
      simpa [LacksLeading] using lacks
    exact ⟨comment, .leading given solid, solid⟩

/-- A location with a usable comment is documented by the most preferred one that is usable, unless
a blank comment is selected in its place. -/
theorem textAt_preferred (usable : ∃ comment ∈ location.preferred, IsUsable comment) :
    ((DocIndex.ofLocations [location]).textAt location.path ≠ "" ↔ ¬location.SelectsBlank) ∧
    (¬location.SelectsBlank → ∃ comment, location.FirstPreferred comment ∧
      (DocIndex.ofLocations [location]).textAt location.path = cleanComment comment) := by
  have silent : location.SelectsBlank →
      (DocIndex.ofLocations [location]).textAt location.path = "" := by
    intro blank
    have nothing := DocIndex.ofLocations_withoutSilent blank.isSilent [] []
    rw [List.nil_append, List.nil_append] at nothing
    rw [← nothing]
    rfl
  have shown : ¬location.SelectsBlank → ∃ comment, location.FirstPreferred comment ∧
      (DocIndex.ofLocations [location]).textAt location.path = cleanComment comment ∧
      cleanComment comment ≠ "" := by
    intro clear
    obtain ⟨comment, selects, solid⟩ := exists_selects usable clear
    have first : DocIndex.FirstUsable [location] location.path comment :=
      ⟨[], location, [], rfl, by simp, rfl, selects, solid⟩
    exact ⟨comment, selects.firstPreferred solid, first.textAt_eq, solid.cleanComment_ne_empty⟩
  constructor
  · constructor
    · exact fun documented blank => documented (silent blank)
    · intro clear
      obtain ⟨comment, _, same, kept⟩ := shown clear
      rwa [same]
  · intro clear
    obtain ⟨comment, first, same, _⟩ := shown clear
    exact ⟨comment, first, same⟩

def satelliteComment : Location where
  path := [4, 0]
  leading := some "\t\n"
  trailing := some " Number of satellites.\n"

theorem satelliteComment_preferred :
    (∃ comment ∈ satelliteComment.preferred, IsUsable comment) ∧ ¬satelliteComment.SelectsBlank ∧
      (DocIndex.ofLocations [satelliteComment]).textAt [4, 0] ≠ "" := by
  have usable : ∃ comment ∈ satelliteComment.preferred, IsUsable comment :=
    ⟨" Number of satellites.\n", by decide, 'N', by decide, by decide⟩
  have clear : ¬satelliteComment.SelectsBlank := by
    rintro ⟨_, comment, last, _⟩
    contradiction
  exact ⟨usable, clear, (textAt_preferred usable).1.mpr clear⟩

def hiddenComment : Location where
  path := [4, 0]
  detached := ["\n"]
  trailing := some " Number of satellites.\n"

theorem hiddenComment_undocumented :
    (∃ comment ∈ hiddenComment.preferred, IsUsable comment) ∧
      (DocIndex.ofLocations [hiddenComment]).textAt hiddenComment.path = "" := by
  constructor
  · exact ⟨" Number of satellites.\n", by decide, 'N', by decide, by decide⟩
  · decide +kernel

end Location

end BindingPress
