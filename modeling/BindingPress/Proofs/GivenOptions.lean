import BindingPress.Pool.Given
import BindingPress.Proofs.OptionReading

/-!
Options that are given by name leave those alone that they do not name. Where an option is not given
by name, the bytes of a declaration decide on it.
-/

namespace BindingPress

open Wire (Record contentsOf)

theorem foldlM_keeps {α β γ : Type} {step : β → α → Option β} (view : β → γ) {elements : List α}
    (keeps : ∀ element ∈ elements, ∀ state result, step state element = some result →
      view result = view state)
    {state result : β} (run : elements.foldlM step state = some result) :
    view result = view state := by
  induction elements generalizing state with
  | nil =>
      obtain rfl := Option.some.inj run
      rfl
  | cons element elements ih =>
      rw [List.foldlM_cons] at run
      obtain ⟨between, first, following⟩ := Option.bind_eq_some_iff.mp run
      rw [List.forall_mem_cons] at keeps
      rw [ih keeps.2 following, keeps.1 state between first]

namespace Pool

variable {pool : Pool} {fields fields' : MessageFields} {number : Nat}

theorem give?_set {field : PoolField} {value : FieldValue}
    (given : pool.give? fields field value = some fields') :
    ∃ final, fields' = pool.set fields field final := by
  rw [give?] at given
  by_cases isMap : pool.isMap field = true
  · rw [if_pos isMap] at given
    obtain ⟨_, _, following⟩ := Option.bind_eq_some_iff.mp given
    obtain ⟨_, _, same⟩ := Option.bind_eq_some_iff.mp following
    exact ⟨_, (Option.some.inj same).symm⟩
  rw [if_neg isMap] at given
  by_cases isRepeated : field.descriptor.isRepeated = true
  · rw [if_pos isRepeated] at given
    exact ⟨_, (Option.some.inj given).symm⟩
  rw [if_neg isRepeated] at given
  by_cases isSet : pool.isSet fields field = true
  · rw [if_pos isSet] at given
    cases given
  · rw [if_neg isSet] at given
    exact ⟨_, (Option.some.inj given).symm⟩

theorem givenField?_owner {names : Names} {scope owner : String} {part : GivenPart}
    {field : PoolField} (found : pool.givenField? names scope owner part = some field) :
    field.owner = owner := by
  unfold givenField? at found
  split at found
  · obtain ⟨symbol, _, filtered⟩ := Option.bind_eq_some_iff.mp found
    simpa using (Option.filter_eq_some_iff.mp filtered).2
  · have accepted := List.find?_some found
    simp only [Bool.and_eq_true, beq_iff_eq] at accepted
    exact accepted.1

theorem setGiven?_set {names : Names} {scope owner : String} {given : GivenOption}
    {part : GivenPart} {rest : List GivenPart}
    (done : pool.setGiven? names scope given owner (part :: rest) fields = some fields') :
    ∃ field final, pool.givenField? names scope owner part = some field ∧
      fields' = pool.set fields field final := by
  obtain ⟨field, found, following⟩ := Option.bind_eq_some_iff.mp done
  by_cases isLast : rest.isEmpty = true
  · rw [if_pos isLast] at following
    obtain ⟨value, _, set⟩ := Option.bind_eq_some_iff.mp following
    obtain ⟨final, same⟩ := give?_set set
    exact ⟨field, final, found, same⟩
  rw [if_neg isLast] at following
  cases type : field.type with
  | message inner | group inner =>
      rw [type] at following
      obtain ⟨_, _, following⟩ := Option.bind_eq_some_iff.mp following
      obtain ⟨below, _, same⟩ := Option.bind_eq_some_iff.mp following
      exact ⟨field, _, found, (Option.some.inj same).symm⟩
  | scalar | enum =>
      rw [type] at following
      cases following

def namedField? (pool : Pool) (site : OptionSite) (given : GivenOption) : Option PoolField := do
  let file ← pool.files.find? (·.name == site.file)
  let part ← given.parts.head?
  pool.givenField? (pool.namesFor file) site.scope site.kind.optionsName part

def givesByName (pool : Pool) (site : OptionSite) (number : Nat) : Bool :=
  (GivenOption.ofOptions site.kind site.options).any fun given =>
    (pool.namedField? site given).any (·.number == number)

theorem get?_clearOwn {owner : String} (extended : pool.ownField? owner number = none)
    (place : Nat) : (pool.clearOwn owner place fields).get? number = fields.get? number := by
  unfold clearOwn
  split
  next own =>
    have other : number ≠ place := by
      rintro rfl
      simp [extended] at own
    rw [MessageFields.get?_erase, if_neg other]
  next => rfl

variable {site : OptionSite} (described : pool.describing site.kind = pool)
  (apart : ∀ other, other.owner = site.kind.optionsName → number ∉ pool.rivals other)

include described apart

theorem setAllGiven?_get? {given : List GivenOption}
    (unnamed : ∀ option ∈ given, ∀ field, pool.namedField? site option = some field →
      field.number ≠ number)
    (done : pool.setAllGiven? site given fields = some fields') :
    fields'.get? number = fields.get? number := by
  obtain ⟨file, found, run⟩ := Option.bind_eq_some_iff.mp done
  rw [described] at run
  refine foldlM_keeps (fun fields => fields.get? number) (fun option member state result set => ?_)
    run
  cases parts : option.parts with
  | nil =>
      rw [parts] at set
      obtain rfl := Option.some.inj set
      rfl
  | cons part rest =>
      rw [parts] at set
      obtain ⟨field, final, named, rfl⟩ := setGiven?_set set
      have referred : pool.namedField? site option = some field := by
        simp [namedField?, found, parts, named]
      exact get?_set_other (unnamed option member field referred).symm
        (apart field (givenField?_owner named)) state final

/-- An option that is not given by name is the one that the bytes hold. -/
theorem interpret?_get? (extended : pool.ownField? site.kind.optionsName number = none)
    (unnamed : pool.givesByName site number = false)
    (done : pool.interpret? site = some fields') :
    ∃ fields, pool.readMessage? site.kind.optionsName site.options = some fields ∧
      fields'.get? number = fields.get? number := by
  obtain ⟨fields, read, following⟩ := Option.bind_eq_some_iff.mp done
  rw [readOptions?, described] at read
  refine ⟨fields, read, ?_⟩
  rw [givesByName, List.any_eq_false] at unnamed
  cases listed : GivenOption.ofOptions site.kind site.options with
  | nil =>
      rw [listed] at following
      obtain rfl := Option.some.inj following
      rfl
  | cons first others =>
      rw [listed] at following unnamed
      obtain ⟨between, set, cleared⟩ := Option.bind_eq_some_iff.mp following
      obtain rfl := Option.some.inj cleared
      rw [described, get?_clearOwn extended]
      refine setAllGiven?_get? described apart (fun option member field named => ?_) set
      have other := unnamed option member
      rw [named] at other
      simpa using other

end Pool
end BindingPress
