import BindingPress.Descriptor.GivenOption
import BindingPress.Pool.Symbol

/-! The rules on names, numbers and dependencies that files keep before any type is resolved. -/

namespace BindingPress

def areDistinct [BEq α] : List α → Bool
  | [] => true
  | first :: rest => !rest.contains first && areDistinct rest

theorem areDistinct_iff_nodup [BEq α] [LawfulBEq α] {elements : List α} :
    areDistinct elements = true ↔ elements.Nodup := by
  induction elements with
  | nil => simp [areDistinct]
  | cons first rest ih => simp [areDistinct, ih]

namespace FieldDescriptor

/-- The name of a field in objects: letters after an underscore are capital. -/
def objectName (field : FieldDescriptor) : String :=
  let rec camel : (capital : Bool) → List Char → List Char
    | _, [] => []
    | capital, c :: rest =>
        if c = '_' then camel true rest
        else (if capital then c.toUpper else c) :: camel false rest
  field.jsonName.getD (String.ofList (camel false field.name.toList))

/-- The name of a field without regard to underscores and the case of plain letters. -/
def foldedName (field : FieldDescriptor) : List Char :=
  (field.name.toList.filter (· != '_')).map Char.toLower

def largestNumber : Int := 536870911

/-- Numbers are positive and leave out those that are kept for implementations. -/
def hasValidNumber (field : FieldDescriptor) : Bool :=
  1 ≤ field.number && field.number ≤ largestNumber &&
    !(19000 ≤ field.number && field.number ≤ 19999)

end FieldDescriptor

/-- Whether two values of an enum may share a number. This can be said by name too. -/
def EnumDescriptor.allowsSharing (enum : EnumDescriptor) : Bool :=
  enum.allowAlias ||
    (GivenOption.ofOptions .enumOptions enum.options).any (·.raises "allow_alias")

def EnumDescriptor.isSound (enum : EnumDescriptor) (isProto3 : Bool) : Bool :=
  match enum.values with
  | [] => false
  | first :: _ =>
      (!isProto3 || first.number == 0) &&
        (enum.allowsSharing || areDistinct (enum.values.map (·.number))) &&
        enum.values.all fun value => !(enum.reservedRanges.any (·.contains value.number))

/-- Whether a message has room for a field. The numbers of extensions are those that the message
sets apart for them, and no others. -/
def MessageDescriptor.admits (message : MessageDescriptor) (field : FieldDescriptor) : Bool :=
  field.hasValidNumber && !(message.reservedRanges.any (·.contains field.number)) &&
    (message.extensionRanges.any (·.contains field.number)) == field.extendee.isSome

def MessageDescriptor.isSound (message : MessageDescriptor) (isProto3 : Bool) : Bool :=
  (message.fields.all fun field =>
    message.admits field &&
      field.oneofIndex.all fun (index : Int) => 0 ≤ index && index < message.oneofs.length) &&
    areDistinct (message.fields.map (·.number)) &&
    areDistinct (message.fields.map (·.objectName)) &&
    (!isProto3 || areDistinct (message.fields.map (·.foldedName)))

namespace FileDescriptor

/-- The dependencies of a file are among the files, and those it singles out are among its own. -/
def hasKnownDependencies (file : FileDescriptor) (files : List FileDescriptor) : Bool :=
  (file.dependencies.all fun dependency => files.any (·.name == dependency)) &&
    (file.publicDependencies ++ file.weakDependencies).all fun (position : Int) =>
      0 ≤ position && position < file.dependencies.length

def isSound (file : FileDescriptor) : Bool :=
  file.version.isKnown &&
    (file.allEnums.all fun (_, enum) => enum.isSound file.isProto3) &&
    file.allMessages.all fun (_, message) => message.isSound file.isProto3

end FileDescriptor

namespace Pool

/-- Full names are declared once, and are not those of packages. -/
def hasUniqueNames (files : List FileDescriptor) : Bool :=
  let names := (files.flatMap FileDescriptor.declarations).map (·.name)
  let packages := (files.flatMap FileDescriptor.packageSymbols).map (·.name)
  areDistinct names && names.all fun name => !packages.contains name

/-- Whether files keep the rules that can be told without resolving types. -/
def areSound (files : List FileDescriptor) : Bool :=
  areDistinct (files.map (·.name)) && (files.all fun file => file.hasKnownDependencies files) &&
    hasUniqueNames files && files.all FileDescriptor.isSound

end Pool
end BindingPress
