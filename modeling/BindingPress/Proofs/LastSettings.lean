import BindingPress.Parameters
import BindingPress.Proofs.LastEntry
import BindingPress.Proofs.Trimming
import Mathlib.Data.List.Induction

/-!
How a parameter text is read: of all its settings only the last one of each key counts, the
environment stands in for a template path that is not set, and whatever sets nothing may as well be
left out.
-/

namespace BindingPress

/-- What an entry sets: it has exactly one equals sign, white space around the key does not count,
and the value is kept as it stands. -/
inductive Gives : List Char → String × String → Prop
  | mk {name key value : List Char} : '=' ∉ name → '=' ∉ value → Text.Trims name key →
      Gives (name ++ '=' :: value) (String.ofList key, String.ofList value)

inductive EntriesGive : List (List Char) → List (String × String) → Prop
  | nil : EntriesGive [] []
  | setting {entry : List Char} {setting : String × String} {entries : List (List Char)}
      {given : List (String × String)} : Gives entry setting → EntriesGive entries given →
      EntriesGive (entry :: entries) (setting :: given)
  | other {entry : List Char} {entries : List (List Char)} {given : List (String × String)} :
      entry.count '=' ≠ 1 → EntriesGive entries given → EntriesGive (entry :: entries) given

def HasSettings (source : String) (given : List (String × String)) : Prop :=
  ∃ entries, entries ≠ [] ∧ (∀ entry ∈ entries, ',' ∉ entry) ∧
    source.toList = List.intercalate [','] entries ∧ EntriesGive entries given

section Settings

variable {entry : List Char} {setting : String × String} {entries : List (List Char)}
variable {given : List (String × String)} {source : String}

theorem setting?_eq_some_iff : setting? entry = some setting ↔ Gives entry setting := by
  constructor
  · intro found
    rw [setting?] at found
    split at found
    next name value cut =>
      obtain ⟨_, free, rfl⟩ := Text.split_eq_iff.mp cut
      rw [← Option.some.inj found]
      have gives := Gives.mk (free name (by simp)) (free value (by simp)) (Text.trims_trim name)
      simpa using gives
    next => contradiction
  · rintro @⟨name, key, value, nameFree, valueFree, trims⟩
    have cut : Text.split '=' (name ++ '=' :: value) = [name, value] :=
      Text.split_eq_iff.mpr ⟨by simp, by simp [nameFree, valueFree], by simp⟩
    rw [setting?, cut, Text.trims_iff.mp trims]

theorem exists_gives_iff : (∃ setting, Gives entry setting) ↔ entry.count '=' = 1 := by
  constructor
  · rintro ⟨_, @⟨name, key, value, nameFree, valueFree, _⟩⟩
    simp [List.count_eq_zero_of_not_mem nameFree, List.count_eq_zero_of_not_mem valueFree]
  · intro once
    obtain ⟨name, value, rfl, nameFree⟩ :=
      List.eq_append_cons_of_mem (List.count_pos_iff.mp (by omega : 0 < entry.count '='))
    have valueFree : '=' ∉ value := by
      rw [List.count_append, List.count_cons_self] at once
      exact List.count_eq_zero.mp (by omega)
    exact ⟨_, .mk nameFree valueFree (Text.trims_trim name)⟩

theorem setting?_eq_none_iff : setting? entry = none ↔ entry.count '=' ≠ 1 := by
  rw [Ne, ← exists_gives_iff, Option.eq_none_iff_forall_ne_some]
  simp only [Ne, setting?_eq_some_iff, not_exists]

theorem entriesGive_iff : EntriesGive entries given ↔ given = entries.filterMap setting? := by
  constructor
  · intro gives
    induction gives with
    | nil => rfl
    | setting gives _ ih =>
        rw [List.filterMap_cons_some (setting?_eq_some_iff.mpr gives), ih]
    | other without _ ih => rw [List.filterMap_cons_none (setting?_eq_none_iff.mpr without), ih]
  · rintro rfl
    induction entries with
    | nil => exact .nil
    | cons entry rest ih =>
        cases found : setting? entry with
        | none =>
            rw [List.filterMap_cons_none found]
            exact .other (setting?_eq_none_iff.mp found) ih
        | some setting =>
            rw [List.filterMap_cons_some found]
            exact .setting (setting?_eq_some_iff.mp found) ih

theorem hasSettings_iff : HasSettings source given ↔ given = settings source := by
  rw [settings]
  constructor
  · rintro ⟨entries, nonempty, free, joined, gives⟩
    rw [Text.split_eq_iff.mpr ⟨nonempty, free, joined⟩]
    exact entriesGive_iff.mp gives
  · rintro rfl
    obtain ⟨nonempty, free, joined⟩ := Text.split_eq_iff.mp (rfl : Text.split ',' source.toList = _)
    exact ⟨_, nonempty, free, joined, entriesGive_iff.mpr rfl⟩

end Settings

namespace Parameters

namespace Draft

theorem enter_eq (draft : Draft) (setting : String × String) :
    draft.enter setting = {
      outputFile := if setting.1 = "output_file" then some setting.2 else draft.outputFile
      fileExtension := if setting.1 = "file_ext" then some setting.2 else draft.fileExtension
      templatePath := if setting.1 = "template_path" then some setting.2 else draft.templatePath
      templateFile := if setting.1 = "template_file" then some setting.2 else draft.templateFile
      initialismsFile :=
        if setting.1 = "initialisms_file" then some setting.2 else draft.initialismsFile
      conversionsFile :=
        if setting.1 = "conversions_file" then some setting.2 else draft.conversionsFile
      lstripBlocks :=
        if setting.1 = "lstrip_blocks" then isAffirmative setting.2 else draft.lstripBlocks
      trimBlocks :=
        if setting.1 = "trim_blocks" then isAffirmative setting.2 else draft.trimBlocks } := by
  obtain ⟨key, value⟩ := setting
  unfold enter
  dsimp only
  split
  case h_9 => simp_all
  all_goals simp

theorem ofSettings_eq (given : List (String × String)) :
    ofSettings given = {
      outputFile := given.reverse.lookup "output_file"
      fileExtension := given.reverse.lookup "file_ext"
      templatePath := given.reverse.lookup "template_path"
      templateFile := given.reverse.lookup "template_file"
      initialismsFile := given.reverse.lookup "initialisms_file"
      conversionsFile := given.reverse.lookup "conversions_file"
      lstripBlocks := (given.reverse.lookup "lstrip_blocks").any isAffirmative
      trimBlocks := (given.reverse.lookup "trim_blocks").any isAffirmative } := by
  induction given using List.reverseRecOn with
  | nil => rfl
  | append_singleton front last ih =>
      rw [ofSettings, List.foldl_append, List.foldl_cons, List.foldl_nil, enter_eq]
      rw [ofSettings] at ih
      simp only [ih, lookup_reverse_concat, apply_ite (Option.any isAffirmative), Option.any_some]

end Draft

variable {given : List (String × String)} {environment : Option String}

def NamesOutput (given : List (String × String)) : Prop :=
  ∃ setting ∈ given, setting.1 = "file_ext" ∨ setting.1 = "output_file"

def NamesTemplates (given : List (String × String)) (environment : Option String) : Prop :=
  (∃ setting ∈ given, setting.1 = "template_path") ∨ ∃ path, environment = some path ∧ path ≠ ""

def SwitchesOn (value : String) : Prop :=
  ∃ word, Text.Trims value.toList word ∧
    word.map Char.toLower ∈ ["true".toList, "1".toList, "yes".toList, "on".toList]

structure Reflects (given : List (String × String)) (environment : Option String)
    (parameters : Parameters) : Prop where
  outputFile : ∀ value, parameters.outputFile = some value ↔ LastUnder given "output_file" value
  fileExtension : ∀ value,
    parameters.fileExtension = some value ↔ LastUnder given "file_ext" value
  templatePath : LastUnder given "template_path" parameters.templatePath ∨
    Lacks given "template_path" ∧ environment = some parameters.templatePath ∧
      parameters.templatePath ≠ ""
  templateFile : ∀ value,
    parameters.templateFile = some value ↔ LastUnder given "template_file" value
  initialismsFile : ∀ value,
    parameters.initialismsFile = some value ↔ LastUnder given "initialisms_file" value
  conversionsFile : ∀ value,
    parameters.conversionsFile = some value ↔ LastUnder given "conversions_file" value
  lstripBlocks : parameters.lstripBlocks = true ↔
    ∃ value, LastUnder given "lstrip_blocks" value ∧ SwitchesOn value
  trimBlocks : parameters.trimBlocks = true ↔
    ∃ value, LastUnder given "trim_blocks" value ∧ SwitchesOn value

/-- How reading ends; a missing output is reported before missing templates. -/
inductive Concludes (given : List (String × String)) (environment : Option String) :
    Except Error Parameters → Prop
  | outputMissing : ¬NamesOutput given → Concludes given environment (.error .fileExtensionUnset)
  | templatesMissing : NamesOutput given → ¬NamesTemplates given environment →
      Concludes given environment (.error .templatePathUnset)
  | complete {parameters : Parameters} : NamesOutput given → NamesTemplates given environment →
      Reflects given environment parameters → Concludes given environment (.ok parameters)

theorem isAffirmative_iff {value : String} : isAffirmative value = true ↔ SwitchesOn value := by
  simp only [isAffirmative, SwitchesOn, Text.trims_iff, exists_eq_left, List.contains_iff_mem]

theorem any_isAffirmative_iff {key : String} :
    (given.reverse.lookup key).any isAffirmative = true ↔
      ∃ value, LastUnder given key value ∧ SwitchesOn value := by
  simp only [Option.any_eq_true, lookup_reverse_eq_some, isAffirmative_iff]

theorem not_lacks_iff {key : String} : ¬Lacks given key ↔ ∃ setting ∈ given, setting.1 = key := by
  simp [Lacks]

theorem namesOutput_iff :
    NamesOutput given ↔ ¬(Lacks given "file_ext" ∧ Lacks given "output_file") := by
  rw [not_and_or, not_lacks_iff, not_lacks_iff, NamesOutput]
  simp only [and_or_left, exists_or]

theorem templatePath_eq_some {path : String} :
    (given.reverse.lookup "template_path").orElse (fun _ => environment.filter (· != "")) =
        some path ↔
      LastUnder given "template_path" path ∨
        Lacks given "template_path" ∧ environment = some path ∧ path ≠ "" := by
  rw [← lookup_reverse_eq_some, ← lookup_reverse_eq_none]
  cases given.reverse.lookup "template_path" with
  | none => simp
  | some value => simp

theorem namesTemplates_iff :
    NamesTemplates given environment ↔
      ∃ path, LastUnder given "template_path" path ∨
        Lacks given "template_path" ∧ environment = some path ∧ path ≠ "" := by
  rw [NamesTemplates, ← not_lacks_iff, exists_or, exists_and_left, ← not_lacks_iff_exists_lastUnder]
  by_cases lacks : Lacks given "template_path" <;> simp [lacks]

theorem parse_concludes (source : String) (environment : Option String) :
    Concludes (settings source) environment (parse source environment) := by
  rw [parse, Draft.ofSettings_eq]
  generalize settings source = given
  dsimp only
  split
  next unset =>
    have lacks : Lacks given "file_ext" ∧ Lacks given "output_file" := by
      simpa only [Bool.and_eq_true, Option.isNone_iff_eq_none, lookup_reverse_eq_none] using unset
    exact .outputMissing (mt namesOutput_iff.mp (not_not.mpr lacks))
  next set =>
    have named : NamesOutput given := by
      simpa only [Bool.and_eq_true, Option.isNone_iff_eq_none, lookup_reverse_eq_none,
        ← namesOutput_iff] using set
    split
    next nowhere =>
      refine .templatesMissing named fun templates => ?_
      obtain ⟨path, placed⟩ := namesTemplates_iff.mp templates
      rw [templatePath_eq_some.mpr placed] at nowhere
      contradiction
    next path found =>
      have placed := templatePath_eq_some.mp found
      exact .complete named (namesTemplates_iff.mpr ⟨path, placed⟩) {
        outputFile := fun _ => lookup_reverse_eq_some
        fileExtension := fun _ => lookup_reverse_eq_some
        templatePath := placed
        templateFile := fun _ => lookup_reverse_eq_some
        initialismsFile := fun _ => lookup_reverse_eq_some
        conversionsFile := fun _ => lookup_reverse_eq_some
        lstripBlocks := any_isAffirmative_iff
        trimBlocks := any_isAffirmative_iff }

section Concludes

variable {outcome : Except Error Parameters} (concluded : Concludes given environment outcome)

include concluded

theorem Concludes.succeeds_iff :
    (∃ parameters, outcome = .ok parameters) ↔
      NamesOutput given ∧ NamesTemplates given environment := by
  cases concluded with
  | outputMissing unnamed => simp [unnamed]
  | templatesMissing _ nowhere => simp [nowhere]
  | complete named placed _ => simp [named, placed]

theorem Concludes.eq_fileExtensionUnset (unnamed : ¬NamesOutput given) :
    outcome = .error .fileExtensionUnset := by
  cases concluded with
  | outputMissing => rfl
  | templatesMissing named _ => contradiction
  | complete named _ _ => contradiction

theorem Concludes.eq_templatePathUnset (named : NamesOutput given)
    (nowhere : ¬NamesTemplates given environment) : outcome = .error .templatePathUnset := by
  cases concluded with
  | outputMissing => contradiction
  | templatesMissing => rfl
  | complete _ placed _ => contradiction

theorem Concludes.reflects {parameters : Parameters} (made : outcome = .ok parameters) :
    Reflects given environment parameters := by
  cases concluded with
  | outputMissing => contradiction
  | templatesMissing => contradiction
  | complete _ _ reflects => exact Except.ok.inj made ▸ reflects

end Concludes

def knownKeys : List String :=
  ["output_file", "file_ext", "template_path", "template_file", "initialisms_file",
    "conversions_file", "lstrip_blocks", "trim_blocks"]

theorem parse_congr {source other : String}
    (same : ∀ key ∈ knownKeys,
      (settings other).reverse.lookup key = (settings source).reverse.lookup key)
    (environment : Option String) : parse other environment = parse source environment := by
  have drafts : Draft.ofSettings (settings other) = Draft.ofSettings (settings source) := by
    simp only [knownKeys, List.forall_mem_cons] at same
    obtain ⟨output, extension, path, file, initialisms, conversions, lstrip, trim, _⟩ := same
    simp only [Draft.ofSettings_eq, output, extension, path, file, initialisms, conversions,
      lstrip, trim]
  rw [parse, drafts, parse]

theorem settings_append (first rest : String) :
    settings (first ++ "," ++ rest) = settings first ++ settings rest := by
  have joined : (first ++ "," ++ rest).toList = first.toList ++ ',' :: rest.toList := by simp
  rw [settings, joined, Text.split_append, List.filterMap_append, settings, settings]

theorem settings_intercalate (parts : List String) :
    settings (",".intercalate parts) = parts.flatMap settings := by
  induction parts with
  | nil => rfl
  | cons part rest ih =>
      cases rest with
      | nil => simp
      | cons next rest =>
          rw [String.intercalate_cons_cons, settings_append, ih]
          rfl

def IsIdle (entry : String) : Prop :=
  entry.toList.count '=' ≠ 1 ∨ ∃ setting, Gives entry.toList setting ∧ setting.1 ∉ knownKeys

theorem IsIdle.lookup_eq_none {entry : String} (idle : IsIdle entry) (whole : ',' ∉ entry.toList)
    {key : String} (known : key ∈ knownKeys) : (settings entry).reverse.lookup key = none := by
  have single : Text.split ',' entry.toList = [entry.toList] :=
    Text.split_eq_iff.mpr ⟨by simp, by simpa using whole, by simp⟩
  rw [lookup_reverse_eq_none, settings, single]
  intro setting member
  obtain ⟨_, among, found⟩ := List.mem_filterMap.mp member
  rw [List.mem_singleton.mp among] at found
  rcases idle with without | ⟨other, gives, unknown⟩
  · rw [setting?_eq_none_iff.mpr without] at found
    contradiction
  · rw [setting?_eq_some_iff.mpr gives] at found
    rintro rfl
    rw [Option.some.inj found] at unknown
    exact unknown known

theorem parse_withoutIdle {entry : String} (idle : IsIdle entry) (whole : ',' ∉ entry.toList)
    (front back : List String) (environment : Option String) :
    parse (",".intercalate (front ++ back)) environment =
      parse (",".intercalate (front ++ entry :: back)) environment := by
  refine parse_congr (fun key known => ?_) environment
  simp only [settings_intercalate, List.flatMap_append, List.flatMap_cons, List.reverse_append,
    List.lookup_append, idle.lookup_eq_none whole known, Option.or_none]

/-- Reading succeeds when the output and the templates are named, by settings or the environment.
Every parameter then is what the last setting of its key says, so that neither entries that set
nothing nor the order of settings with different keys matter. -/
theorem parse_lastSettings (source : String) (environment : Option String) :
    ∃ given, (∀ list, HasSettings source list ↔ list = given) ∧
      ((∃ parameters, parse source environment = .ok parameters) ↔
        NamesOutput given ∧ NamesTemplates given environment) ∧
      (¬NamesOutput given → parse source environment = .error .fileExtensionUnset) ∧
      (NamesOutput given → ¬NamesTemplates given environment →
        parse source environment = .error .templatePathUnset) ∧
      (∀ parameters, parse source environment = .ok parameters →
        Reflects given environment parameters) ∧
      (∀ front entry back, source = ",".intercalate (front ++ entry :: back) →
        ',' ∉ entry.toList → IsIdle entry →
        parse (",".intercalate (front ++ back)) environment = parse source environment) ∧
      ∀ other list, HasSettings other list → list.Perm given → (given.map (·.1)).Nodup →
        parse other environment = parse source environment := by
  have concluded := parse_concludes source environment
  refine ⟨settings source, fun list => hasSettings_iff, concluded.succeeds_iff,
    concluded.eq_fileExtensionUnset, concluded.eq_templatePathUnset,
    fun parameters => concluded.reflects, ?_, ?_⟩
  · rintro front entry back rfl whole idle
    exact parse_withoutIdle idle whole front back environment
  · intro other list has permuted distinct
    rw [hasSettings_iff.mp has] at permuted
    have same := SameByKey.of_perm permuted.symm distinct
    exact parse_congr (fun key _ => (same.lookup_reverse key).symm) environment

example : parse "file_ext=h,a=b=c, trim_blocks = Yes ,file_ext=cpp,template_path=" (some "t") =
    .ok {
      outputFile := none, fileExtension := some "cpp", templatePath := "", templateFile := none,
      initialismsFile := none, conversionsFile := none, lstripBlocks := false,
      trimBlocks := true } := by
  decide +kernel

end Parameters
end BindingPress
