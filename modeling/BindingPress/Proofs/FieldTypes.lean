import BindingPress.Proofs.Failure
import BindingPress.Proofs.LastEntry
import BindingPress.Proofs.Outcomes
import Mathlib.Tactic.IntervalCases

/-!
What a conversion table makes of a field: when it gives the field a type at all, and which type,
accessor and marks it gives. Patterns are filled in by replacing every placeholder in them.
-/

namespace BindingPress

namespace Text

/-- How a pattern is filled in: each placeholder is replaced, and all else is kept. -/
inductive Fills (placeholder replacement : List Char) : List Char → List Char → Prop
  | last {text : List Char} : ¬placeholder <:+: text → Fills placeholder replacement text text
  | next {before rest filled : List Char} : ¬placeholder <:+: before →
      Fills placeholder replacement rest filled →
      Fills placeholder replacement (before ++ (placeholder ++ rest))
        (before ++ (replacement ++ filled))

section

variable {head : Char} {tail replacement : List Char}

theorem not_infix_cons {pattern text : List Char} {c : Char} (start : ¬pattern <+: c :: text)
    (inner : ¬pattern <:+: text) : ¬pattern <:+: c :: text := by
  rw [List.infix_cons_iff]
  exact not_or.mpr ⟨start, inner⟩

theorem fills_replace (head : Char) (tail replacement pattern : List Char) :
    Fills (head :: tail) replacement pattern (replace head tail replacement pattern) := by
  fun_induction replace head tail replacement pattern with
  | case1 => exact .last (by simp)
  | case2 c rest found ih =>
      obtain ⟨rfl, after, rfl⟩ : head = c ∧ tail <+: rest := by
        simpa using List.isPrefixOf_iff_prefix.mp found
      rw [List.drop_left] at ih ⊢
      have absent : ¬head :: tail <:+: [] := by simp
      exact .next absent ih
  | case3 c rest missed ih =>
      rw [List.isPrefixOf_iff_prefix] at missed
      generalize replace head tail replacement rest = filled at ih ⊢
      cases ih with
      | last free => exact .last (not_infix_cons missed free)
      | @next before after filled free later =>
          have start : ¬head :: tail <+: c :: before := by
            intro found
            exact missed (found.trans (List.prefix_append (c :: before) _))
          exact .next (not_infix_cons start free) later

theorem replace_of_free {text : List Char} (free : ¬head :: tail <:+: text) :
    replace head tail replacement text = text := by
  induction text with
  | nil => rw [replace]
  | cons c rest ih =>
      rw [List.infix_cons_iff, not_or, ← List.isPrefixOf_iff_prefix] at free
      rw [replace, if_neg free.1, ih free.2]

theorem not_prefix_append {text : List Char} {c : Char} (single : head ∉ tail)
    (free : ¬head :: tail <+: c :: text) (rest : List Char) :
    ¬head :: tail <+: c :: (text ++ (head :: rest)) := by
  intro found
  obtain ⟨rfl, begins⟩ := List.cons_prefix_cons.mp found
  rw [List.append_cons] at begins
  rcases List.prefix_or_prefix_of_prefix begins (List.prefix_append _ _) with inside | beyond
  · rcases List.prefix_concat_iff.mp inside with whole | within
    · exact single (by simp [whole])
    · exact free (List.cons_prefix_cons.mpr ⟨rfl, within⟩)
  · exact single (beyond.subset (by simp))

theorem replace_append {before : List Char} (single : head ∉ tail)
    (free : ¬head :: tail <:+: before) (rest : List Char) :
    replace head tail replacement (before ++ (head :: tail ++ rest)) =
      before ++ (replacement ++ replace head tail replacement rest) := by
  induction before with
  | nil =>
      have found : (head :: tail).isPrefixOf (head :: (tail ++ rest)) = true := by simp
      rw [List.nil_append, List.cons_append, replace, if_pos found, List.drop_left,
        List.nil_append]
  | cons c before ih =>
      rw [List.infix_cons_iff, not_or] at free
      have missed := not_prefix_append single free.1 (tail ++ rest)
      rw [← List.isPrefixOf_iff_prefix] at missed
      rw [List.cons_append, List.cons_append, replace, if_neg missed, ← List.cons_append,
        ih free.2, List.cons_append]

theorem fills_iff (single : head ∉ tail) {pattern filled : List Char} :
    Fills (head :: tail) replacement pattern filled ↔
      filled = replace head tail replacement pattern := by
  constructor
  · intro fills
    induction fills with
    | last free => rw [replace_of_free free]
    | next free _ ih => rw [replace_append single free, ih]
  · rintro rfl
    exact fills_replace head tail replacement pattern

end

end Text

def namePlaceholder : List Char := "\x7bname\x7d".toList

def fieldPlaceholder : List Char := "\x7bfield\x7d".toList

theorem fills_name {pattern name filled : String} :
    Text.Fills namePlaceholder name.toList pattern.toList filled.toList ↔
      filled = fillName pattern name := by
  have single : '\x7b' ∉ "name\x7d".toList := by simp
  rw [fillName, ← String.toList_inj, String.toList_ofList]
  exact Text.fills_iff single

theorem fills_field {pattern field filled : String} :
    Text.Fills fieldPlaceholder field.toList pattern.toList filled.toList ↔
      filled = fillField pattern field := by
  have single : '\x7b' ∉ "field\x7d".toList := by simp
  rw [fillField, ← String.toList_inj, String.toList_ofList]
  exact Text.fills_iff single

namespace FieldType

def isDeclared : FieldType → Bool
  | message | enum => true
  | _ => false

def isScalar (type : FieldType) : Bool :=
  type != group && !type.isDeclared

theorem isDeclared_eq (type : FieldType) :
    type.isDeclared = (type == message || type == enum) := by
  cases type <;> rfl

theorem group_or_isDeclared_or_isScalar (type : FieldType) :
    type = group ∨ type.isDeclared = true ∨ type.isScalar = true := by
  cases type <;> decide

theorem not_isDeclared_of_isScalar {type : FieldType} (scalar : type.isScalar = true) :
    type.isDeclared = false := by
  simp only [isScalar, Bool.and_eq_true, Bool.not_eq_true'] at scalar
  exact scalar.2

theorem ofNumber?_eq_none {number : Int} :
    ofNumber? number = none ↔ number < 1 ∨ 18 < number := by
  constructor
  · intro missing
    by_contra within
    have lower : 1 ≤ number := by omega
    have upper : number ≤ 18 := by omega
    interval_cases number <;> simp [ofNumber?] at missing
  · intro outside
    unfold ofNumber?
    split
    all_goals simp at outside ⊢

theorem ofNumber?_eq_group {number : Int} : ofNumber? number = some group ↔ number = 10 := by
  constructor
  · intro found
    unfold ofNumber? at found
    split at found
    all_goals simp at found ⊢
  · rintro rfl
    rfl

end FieldType

theorem FieldDescriptor.fieldType?_eq_none {field : FieldDescriptor} :
    field.fieldType? = none ↔
      ∀ number, field.type = some number → number < 1 ∨ 18 < number := by
  simp only [fieldType?, Option.bind_eq_none_iff, FieldType.ofNumber?_eq_none]

theorem FieldDescriptor.fieldType?_eq_group {field : FieldDescriptor} :
    field.fieldType? = some .group ↔ field.type = some 10 := by
  simp only [fieldType?, Option.bind_eq_some_iff, FieldType.ofNumber?_eq_group, exists_eq_right]

theorem FieldDescriptor.isRepeated_iff {field : FieldDescriptor} :
    field.isRepeated = true ↔ field.label = some 3 :=
  beq_iff_eq

namespace ConversionTable

section

variable {table : ConversionTable} {field : FieldDescriptor} {type : FieldType}

theorem elementType_scalar (scalar : type.isScalar = true) :
    table.elementType type field = table.scalarType type field.name := by
  unfold elementType
  split
  · contradiction
  · contradiction
  · contradiction
  · rfl

theorem elementType_declared (declared : type.isDeclared = true) :
    table.elementType type field =
      .ok (table.declaredType type (shortName (field.typeName.getD "")) field.name) := by
  unfold elementType
  split
  · rfl
  · rfl
  · contradiction
  · cases type <;> contradiction

/-- What the type of an element is taken from. -/
inductive Supplies (table : ConversionTable) (type : FieldType) (field : FieldDescriptor) :
    ElementType → Prop
  | scalar {conversion : Conversion} : type.isScalar = true →
      table.get? type.key = some conversion →
      Supplies table type field ⟨conversion.typePattern, conversion.accessorFor field.name⟩
  | pattern {conversion : Conversion} : type.isDeclared = true →
      table.get? type.key = some conversion →
      Supplies table type field ⟨conversion.typeFor (shortName (field.typeName.getD "")),
        conversion.accessorFor field.name⟩
  | own : type.isDeclared = true → table.get? type.key = none →
      Supplies table type field ⟨shortName (field.typeName.getD ""), field.name⟩

theorem elementType_eq_ok {element : ElementType} :
    table.elementType type field = .ok element ↔ table.Supplies type field element := by
  constructor
  · intro made
    rcases type.group_or_isDeclared_or_isScalar with rfl | declared | scalar
    · contradiction
    · rw [elementType_declared declared, declaredType] at made
      rw [← Except.ok.inj made]
      cases found : table.get? type.key with
      | none => exact .own declared found
      | some conversion => exact .pattern declared found
    · rw [elementType_scalar scalar, scalarType] at made
      cases found : table.get? type.key with
      | none =>
          rw [found] at made
          contradiction
      | some conversion =>
          rw [found] at made
          rw [← Except.ok.inj made]
          exact .scalar scalar found
  · intro supplies
    cases supplies with
    | scalar scalar found => rw [elementType_scalar scalar, scalarType, found]
    | pattern declared found => rw [elementType_declared declared, declaredType, found]
    | own declared missing => rw [elementType_declared declared, declaredType, missing]

inductive NamesType (table : ConversionTable) (field : FieldDescriptor) (element : String) :
    String → Prop
  | single : field.label ≠ some 3 → NamesType table field element element
  | repeated {wrapper : Wrapper} : field.label = some 3 → table.repeated = some wrapper →
      NamesType table field element (wrapper.opening ++ element ++ wrapper.closing)

def accessorOf (table : ConversionTable) (field : FieldDescriptor) (element : ElementType) :
    String :=
  if field.label = some 3 then
    (table.repeated.bind (·.accessorFor field.name)).getD element.accessor
  else element.accessor

def marked (type : FieldType) (field : FieldDescriptor) (innerName name accessor : String) :
    TypeInfo where
  name := name
  innerName := innerName
  accessor := accessor
  isPrimitive := type != .message && type != .enum
  isEnum := type == .enum
  isRepeated := field.isRepeated
  isResult := isResultReference type field

theorem resolve_eq_ok {info : TypeInfo} :
    table.resolve field = .ok info ↔
      ∃ type element name, field.fieldType? = some type ∧
        table.elementType type field = .ok element ∧ table.NamesType field element.name name ∧
        info = marked type field element.name name (table.accessorOf field element) := by
  constructor
  · intro resolved
    unfold resolve at resolved
    split at resolved
    next type known =>
      obtain ⟨element, made, shown⟩ := bind_eq_ok.mp resolved
      simp only [pure, Except.pure] at shown
      split at shown
      next repeated =>
        rw [FieldDescriptor.isRepeated_iff] at repeated
        split at shown
        next wrapper given =>
          refine ⟨type, element, _, known, made, .repeated repeated given, ?_⟩
          rw [accessorOf, if_pos repeated, given]
          exact (Except.ok.inj shown).symm
        next => contradiction
      next single =>
        rw [FieldDescriptor.isRepeated_iff] at single
        refine ⟨type, element, _, known, made, .single single, ?_⟩
        rw [accessorOf, if_neg single]
        exact (Except.ok.inj shown).symm
    next => contradiction
  · rintro ⟨type, element, name, known, made, names, rfl⟩
    cases names with
    | single single =>
        have once := mt FieldDescriptor.isRepeated_iff.mp single
        simp [resolve, known, made, once, single, accessorOf, marked, bind, Except.bind, pure,
          Except.pure]
    | repeated repeated given =>
        have several := FieldDescriptor.isRepeated_iff.mpr repeated
        simp [resolve, known, made, several, repeated, given, accessorOf, marked, Wrapper.wrap,
          bind, Except.bind, pure, Except.pure]

/-- The type of one element of a field: for a scalar the text of its entry as it stands; for a
declared type its own name, or the pattern of its entry filled in with that name. -/
inductive NamesElement (table : ConversionTable) (field : FieldDescriptor) : String → Prop
  | scalar {type : FieldType} {conversion : Conversion} : field.fieldType? = some type →
      type.isScalar = true → table.get? type.key = some conversion →
      NamesElement table field conversion.typePattern
  | pattern {type : FieldType} {conversion : Conversion} {referenced name : String} :
      field.fieldType? = some type → type.isDeclared = true →
      table.get? type.key = some conversion → IsLastPart (field.typeName.getD "") referenced →
      Text.Fills namePlaceholder referenced.toList conversion.typePattern.toList name.toList →
      NamesElement table field name
  | own {type : FieldType} {referenced : String} : field.fieldType? = some type →
      type.isDeclared = true → table.get? type.key = none →
      IsLastPart (field.typeName.getD "") referenced → NamesElement table field referenced

theorem namesElement_iff {name : String} :
    table.NamesElement field name ↔
      ∃ type element, field.fieldType? = some type ∧ table.Supplies type field element ∧
        element.name = name := by
  constructor
  · intro names
    cases names with
    | scalar known scalar found => exact ⟨_, _, known, .scalar scalar found, rfl⟩
    | pattern known declared found part fills =>
        rw [isLastPart_iff.mp part, fills_name] at fills
        exact ⟨_, _, known, .pattern declared found, fills.symm⟩
    | own known declared missing part =>
        exact ⟨_, _, known, .own declared missing, (isLastPart_iff.mp part).symm⟩
  · rintro ⟨type, element, known, supplies, rfl⟩
    have part := shortName_isLastPart (field.typeName.getD "")
    cases supplies with
    | scalar scalar found => exact .scalar known scalar found
    | pattern declared found => exact .pattern known declared found part (fills_name.mpr rfl)
    | own declared missing => exact .own known declared missing part

def accessorPattern? (table : ConversionTable) (field : FieldDescriptor) : Option String :=
  (if field.label = some 3 then table.repeated.bind (·.accessorPattern) else none).or
    ((field.fieldType?.bind fun type => table.get? type.key).map (·.accessorPattern))

inductive Reaches (table : ConversionTable) (field : FieldDescriptor) : String → Prop
  | pattern {pattern accessor : String} : table.accessorPattern? field = some pattern →
      Text.Fills fieldPlaceholder field.name.toList pattern.toList accessor.toList →
      Reaches table field accessor
  | own : table.accessorPattern? field = none → Reaches table field field.name

theorem reaches_iff {accessor : String} :
    table.Reaches field accessor ↔
      accessor = ((table.accessorPattern? field).map (fillField · field.name)).getD field.name := by
  constructor
  · intro reaches
    cases reaches with
    | pattern found fills => rw [found, fills_field.mp fills, Option.map_some, Option.getD_some]
    | own missing => rw [missing, Option.map_none, Option.getD_none]
  · rintro rfl
    cases found : table.accessorPattern? field with
    | none => exact .own found
    | some pattern => exact .pattern found (fills_field.mpr rfl)

theorem Supplies.accessor_eq {element : ElementType}
    (supplies : table.Supplies type field element) :
    element.accessor =
      ((table.get? type.key).map fun conversion => conversion.accessorFor field.name).getD
        field.name := by
  cases supplies with
  | scalar _ found => rw [found, Option.map_some, Option.getD_some]
  | pattern _ found => rw [found, Option.map_some, Option.getD_some]
  | own _ missing => rw [missing, Option.map_none, Option.getD_none]

theorem reaches_iff_accessorOf {element : ElementType} {accessor : String}
    (known : field.fieldType? = some type) (supplies : table.Supplies type field element) :
    table.Reaches field accessor ↔ accessor = table.accessorOf field element := by
  rw [reaches_iff, accessorPattern?, accessorOf, known, Option.bind_some, supplies.accessor_eq]
  by_cases repeated : field.label = some 3
  · have mapped : table.repeated.bind (·.accessorFor field.name) =
        (table.repeated.bind (·.accessorPattern)).map (fillField · field.name) := by
      cases table.repeated <;> rfl
    rw [if_pos repeated, if_pos repeated, mapped]
    cases table.repeated.bind (·.accessorPattern) with
    | none =>
        rw [Option.none_or, Option.map_map]
        rfl
    | some pattern => rfl
  · rw [if_neg repeated, if_neg repeated, Option.none_or, Option.map_map]
    rfl

structure Describes (table : ConversionTable) (field : FieldDescriptor) (info : TypeInfo) :
    Prop where
  innerName : table.NamesElement field info.innerName
  name : table.NamesType field info.innerName info.name
  accessor : table.Reaches field info.accessor
  isPrimitive : info.isPrimitive = true ↔
    ∃ type, field.fieldType? = some type ∧ type.isScalar = true
  isEnum : info.isEnum = true ↔ field.fieldType? = some .enum
  isRepeated : info.isRepeated = true ↔ field.label = some 3
  isResult : info.isResult = true ↔ field.CarriesOutcome

theorem Supplies.isScalar_eq {element : ElementType}
    (supplies : table.Supplies type field element) :
    type.isScalar = (type != .message && type != .enum) := by
  have other : type ≠ .group := by
    rintro rfl
    cases supplies <;> contradiction
  simp [FieldType.isScalar, FieldType.isDeclared_eq, other, bne]

theorem marked_described {element : ElementType} {name : String}
    (known : field.fieldType? = some type) (supplies : table.Supplies type field element)
    (names : table.NamesType field element.name name) :
    table.Describes field
      (marked type field element.name name (table.accessorOf field element)) where
  innerName := namesElement_iff.mpr ⟨type, element, known, supplies, rfl⟩
  name := names
  accessor := (reaches_iff_accessorOf known supplies).mpr rfl
  isPrimitive := by simp [marked, known, supplies.isScalar_eq]
  isEnum := by simp [marked, known]
  isRepeated := FieldDescriptor.isRepeated_iff
  isResult := by
    rw [FieldDescriptor.CarriesOutcome, known, Option.some.injEq]
    exact isResultReference_iff type field

theorem resolve_eq_ok_iff {info : TypeInfo} :
    table.resolve field = .ok info ↔ table.Describes field info := by
  rw [resolve_eq_ok]
  constructor
  · rintro ⟨type, element, name, known, made, names, rfl⟩
    exact marked_described known (elementType_eq_ok.mp made) names
  · intro describes
    obtain ⟨type, element, known, supplies, same⟩ := namesElement_iff.mp describes.innerName
    have names := describes.name
    rw [← same] at names
    refine ⟨type, element, info.name, known, elementType_eq_ok.mpr supplies, names, ?_⟩
    have other := marked_described known supplies names
    have accessor := (reaches_iff_accessorOf known supplies).mp describes.accessor
    have isPrimitive := Bool.eq_iff_iff.mpr (describes.isPrimitive.trans other.isPrimitive.symm)
    have isEnum := Bool.eq_iff_iff.mpr (describes.isEnum.trans other.isEnum.symm)
    have isRepeated := Bool.eq_iff_iff.mpr (describes.isRepeated.trans other.isRepeated.symm)
    have isResult := Bool.eq_iff_iff.mpr (describes.isResult.trans other.isResult.symm)
    cases info
    simp_all [marked]

/-- Why a field may have no type. -/
inductive Refuses (table : ConversionTable) (field : FieldDescriptor) : Prop
  | typeless : (∀ number, field.type = some number → number < 1 ∨ 18 < number) →
      Refuses table field
  | group : field.type = some 10 → Refuses table field
  | scalar {type : FieldType} : field.fieldType? = some type → type.isScalar = true →
      table.get? type.key = none → Refuses table field
  | repeated : field.label = some 3 → table.repeated = none → Refuses table field

theorem NamesType.wrapped {element name : String} (names : table.NamesType field element name)
    (repeated : field.label = some 3) : table.repeated ≠ none := by
  cases names with
  | single once => contradiction
  | repeated _ given => simp [given]

theorem Describes.not_refuses {info : TypeInfo} (describes : table.Describes field info) :
    ¬table.Refuses field := by
  obtain ⟨type, element, known, supplies, _⟩ := namesElement_iff.mp describes.innerName
  intro refuses
  cases refuses with
  | typeless unknown =>
      rw [FieldDescriptor.fieldType?_eq_none.mpr unknown] at known
      contradiction
  | group grouped =>
      rw [FieldDescriptor.fieldType?_eq_group.mpr grouped] at known
      cases known
      cases supplies <;> contradiction
  | scalar same scalar missing =>
      cases known.symm.trans same
      cases supplies with
      | scalar _ found => simp [missing] at found
      | pattern declared _ => simp [FieldType.not_isDeclared_of_isScalar scalar] at declared
      | own declared _ => simp [FieldType.not_isDeclared_of_isScalar scalar] at declared
  | repeated repeated missing =>
      exact describes.name.wrapped repeated missing

theorem exists_supplies (accepted : ¬table.Refuses field) :
    ∃ type element, field.fieldType? = some type ∧ table.Supplies type field element := by
  cases known : field.fieldType? with
  | none => exact absurd (.typeless (FieldDescriptor.fieldType?_eq_none.mp known)) accepted
  | some type =>
      rcases type.group_or_isDeclared_or_isScalar with rfl | declared | scalar
      · exact absurd (.group (FieldDescriptor.fieldType?_eq_group.mp known)) accepted
      · cases found : table.get? type.key with
        | none => exact ⟨type, _, rfl, .own declared found⟩
        | some conversion => exact ⟨type, _, rfl, .pattern declared found⟩
      · cases found : table.get? type.key with
        | none => exact absurd (.scalar known scalar found) accepted
        | some conversion => exact ⟨type, _, rfl, .scalar scalar found⟩

theorem exists_namesType (accepted : ¬table.Refuses field) (element : String) :
    ∃ name, table.NamesType field element name := by
  by_cases repeated : field.label = some 3
  · cases given : table.repeated with
    | none => exact absurd (.repeated repeated given) accepted
    | some wrapper => exact ⟨_, .repeated repeated given⟩
  · exact ⟨element, .single repeated⟩

theorem resolve_succeeds_iff :
    (∃ info, table.resolve field = .ok info) ↔ ¬table.Refuses field := by
  simp only [resolve_eq_ok_iff]
  constructor
  · rintro ⟨info, describes⟩
    exact describes.not_refuses
  · intro accepted
    obtain ⟨type, element, known, supplies⟩ := exists_supplies accepted
    obtain ⟨name, names⟩ := exists_namesType accepted element.name
    exact ⟨_, marked_described known supplies names⟩

theorem resolve_fails_iff :
    (∃ error, table.resolve field = .error error) ↔ table.Refuses field := by
  rw [← not_iff_not, ← resolve_succeeds_iff]
  cases table.resolve field <;> simp

theorem Describes.exclusive {info : TypeInfo} (describes : table.Describes field info) :
    ¬(info.isPrimitive = true ∧ info.isEnum = true) ∧
      ¬(info.isPrimitive = true ∧ info.isResult = true) ∧
      ¬(info.isEnum = true ∧ info.isResult = true) := by
  rw [describes.isPrimitive, describes.isEnum, describes.isResult]
  refine ⟨?_, ?_, ?_⟩
  · rintro ⟨⟨type, known, scalar⟩, enum⟩
    cases known.symm.trans enum
    contradiction
  · rintro ⟨⟨type, known, scalar⟩, message, _⟩
    cases known.symm.trans message
    contradiction
  · rintro ⟨enum, message, _⟩
    cases enum.symm.trans message

theorem innerName_withLabel {label : Option Int} {info other : TypeInfo}
    (resolved : table.resolve field = .ok info)
    (relabelled : table.resolve { field with label } = .ok other) :
    other.innerName = info.innerName := by
  obtain ⟨type, element, _, known, made, _, rfl⟩ := resolve_eq_ok.mp resolved
  obtain ⟨_, _, _, knownToo, madeToo, _, rfl⟩ := resolve_eq_ok.mp relabelled
  cases knownToo.symm.trans known
  cases madeToo.symm.trans made
  rfl

structure Extends (larger table : ConversionTable) : Prop where
  entries : ∀ kind conversion, table.get? kind = some conversion →
    larger.get? kind = some conversion
  repeated : ∀ wrapper, table.repeated = some wrapper → larger.repeated = some wrapper

variable {larger : ConversionTable}

theorem Extends.refuses (enlarged : larger.Extends table) (refuses : larger.Refuses field) :
    table.Refuses field := by
  cases refuses with
  | typeless unknown => exact .typeless unknown
  | group grouped => exact .group grouped
  | scalar known scalar missing =>
      refine .scalar known scalar (Option.eq_none_iff_forall_ne_some.mpr fun conversion found => ?_)
      simp [enlarged.entries _ _ found] at missing
  | repeated repeated missing =>
      refine .repeated repeated (Option.eq_none_iff_forall_ne_some.mpr fun wrapper given => ?_)
      simp [enlarged.repeated _ given] at missing

theorem elementType_congr (entry : larger.get? type.key = table.get? type.key)
    (field : FieldDescriptor) :
    larger.elementType type field = table.elementType type field := by
  unfold elementType declaredType scalarType
  rw [entry]

theorem resolve_congr
    (entry : ∀ type, field.fieldType? = some type → larger.get? type.key = table.get? type.key)
    (wrapper : field.label = some 3 → larger.repeated = table.repeated) :
    larger.resolve field = table.resolve field := by
  cases known : field.fieldType? with
  | none => simp [resolve, known]
  | some type =>
      have same := elementType_congr (entry type known) field
      by_cases repeated : field.isRepeated = true
      · have given := wrapper (FieldDescriptor.isRepeated_iff.mp repeated)
        simp [resolve, known, same, repeated, given]
      · simp [resolve, known, same, repeated]

theorem Extends.resolve_eq {info : TypeInfo} (enlarged : larger.Extends table)
    (resolved : table.resolve field = .ok info)
    (settled : ∀ type, field.fieldType? = some type →
      type.isScalar = true ∨ larger.get? type.key = table.get? type.key) :
    larger.resolve field = .ok info := by
  have accepted : ¬table.Refuses field := resolve_succeeds_iff.mp ⟨info, resolved⟩
  rw [← resolved]
  apply resolve_congr
  · intro type known
    rcases settled type known with scalar | same
    · cases found : table.get? type.key with
      | none => exact absurd (.scalar known scalar found) accepted
      | some conversion => exact enlarged.entries _ _ found
    · exact same
  · intro repeated
    cases given : table.repeated with
    | none => exact absurd (.repeated repeated given) accepted
    | some wrapper => exact enlarged.repeated _ given

theorem insert_extends {kind : String} {conversion : Conversion} (fresh : table.get? kind = none) :
    (table.insert kind conversion).Extends table where
  entries other found given := by
    have differs : other ≠ kind := by
      rintro rfl
      rw [fresh] at given
      contradiction
    have unequal : (other == kind) = false := by simpa using differs
    rw [get?, insert, List.lookup_cons, unequal, ← given]
    exact lookup_filter_ne differs
  repeated _ given := given

end

/-- When a field has a type, and what is then known of it. -/
theorem resolve_complete (table : ConversionTable) (field : FieldDescriptor) :
    ((∃ error, table.resolve field = .error error) ↔ table.Refuses field) ∧
    (∀ error, table.resolve field = .error error → error.kind = .typeResolution) ∧
    (∀ info, table.resolve field = .ok info ↔ table.Describes field info) ∧
    (∀ info, table.resolve field = .ok info →
      ¬(info.isPrimitive = true ∧ info.isEnum = true) ∧
        ¬(info.isPrimitive = true ∧ info.isResult = true) ∧
        ¬(info.isEnum = true ∧ info.isResult = true)) ∧
    (∀ label info other, table.resolve field = .ok info →
      table.resolve { field with label } = .ok other → other.innerName = info.innerName) ∧
    ∀ (larger : ConversionTable) (info : TypeInfo), larger.Extends table →
      table.resolve field = .ok info →
      (∃ other, larger.resolve field = .ok other) ∧
        ((∀ type, field.fieldType? = some type →
            type.isScalar = true ∨ larger.get? type.key = table.get? type.key) →
          larger.resolve field = .ok info) := by
  refine ⟨resolve_fails_iff, fun _ => resolve_error_kind, fun _ => resolve_eq_ok_iff, ?_, ?_, ?_⟩
  · intro info resolved
    exact (resolve_eq_ok_iff.mp resolved).exclusive
  · intro label info other
    exact innerName_withLabel
  · intro larger info enlarged resolved
    have accepted : ¬table.Refuses field := resolve_succeeds_iff.mp ⟨info, resolved⟩
    exact ⟨resolve_succeeds_iff.mpr fun refuses => accepted (enlarged.refuses refuses),
      enlarged.resolve_eq resolved⟩

def flightTable : ConversionTable where
  entries := [("TYPE_FLOAT", ⟨"float", "\x7bfield\x7d_m()"⟩),
    ("TYPE_ENUM", .ofType "rpc::\x7bname\x7d")]
  repeated := some ⟨"vector<", ">", some "all(\x7bfield\x7d)"⟩

def modesField : FieldDescriptor where
  name := "modes"
  label := some 3
  type := some 14
  typeName := some ".mavsdk.rpc.FlightMode"

def modesInfo : TypeInfo where
  name := "vector<rpc::FlightMode>"
  innerName := "rpc::FlightMode"
  accessor := "all(modes)"
  isPrimitive := false
  isEnum := true
  isRepeated := true
  isResult := false

def armedField : FieldDescriptor where
  name := "armed"
  type := some 8

theorem modesField_complete :
    flightTable.resolve modesField = .ok modesInfo ∧ flightTable.Describes modesField modesInfo ∧
      ¬(modesInfo.isEnum = true ∧ modesInfo.isResult = true) ∧
      (∀ other, flightTable.resolve { modesField with label := none } = .ok other →
        other.innerName = "rpc::FlightMode") ∧
      (flightTable.insert "TYPE_BOOL" (.ofType "bool")).Extends flightTable ∧
      (flightTable.insert "TYPE_BOOL" (.ofType "bool")).resolve modesField = .ok modesInfo ∧
      flightTable.resolve armedField = .error (.conversionMissing "TYPE_BOOL" "armed") ∧
      flightTable.Refuses armedField := by
  have resolved : flightTable.resolve modesField = .ok modesInfo := by decide +kernel
  have enlarged : (flightTable.insert "TYPE_BOOL" (.ofType "bool")).Extends flightTable :=
    insert_extends (by decide +kernel)
  have failed : flightTable.resolve armedField =
      .error (.conversionMissing "TYPE_BOOL" "armed") := by
    decide +kernel
  obtain ⟨refused, _⟩ := resolve_complete flightTable armedField
  obtain ⟨_, _, described, exclusive, relabelled, larger⟩ := resolve_complete flightTable modesField
  refine ⟨resolved, (described _).mp resolved, (exclusive _ resolved).2.2, ?_, enlarged, ?_, failed,
    refused.mp ⟨_, failed⟩⟩
  · exact fun other again => relabelled none _ other resolved again
  · refine (larger _ _ enlarged resolved).2 fun type known => .inr ?_
    cases known
    decide +kernel

end ConversionTable

end BindingPress
