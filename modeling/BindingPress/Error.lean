/-! Everything that can go wrong, by cause, and the words in which it is reported. -/

namespace BindingPress

inductive ReadFailure where
  | missing
  | notDirectory
  | isDirectory
  | notText
deriving Repr, DecidableEq

def ReadFailure.message : ReadFailure → String
  | missing => "No such file or directory (os error 2)"
  | notDirectory => "Not a directory (os error 20)"
  | isDirectory => "Is a directory (os error 21)"
  | notText => "stream did not contain valid UTF-8"

inductive FilterFailure where
  | indentOfNoText
  | indentWidth
  | removalFromNoText
  | removalArgument
deriving Repr, DecidableEq

def FilterFailure.message : FilterFailure → String
  | indentOfNoText => "indent filter expects a string"
  | indentWidth => "indent filter expects an integer width"
  | removalFromNoText => "remove_prefix filter expects a string"
  | removalArgument => "remove_prefix filter expects a `prefix` argument"

/-- What readers say of bytes and texts that do not have their format. -/
structure Wording where
  request : String := "<detail>"
  table : String := "<detail>"
  templates : String := "<detail>"
  rendering : String := "<detail>"
deriving Repr, DecidableEq

inductive Payload where
  | request
  | response
deriving Repr, DecidableEq

def Payload.title : Payload → String
  | request => "Request"
  | response => "Response"

inductive ErrorKind where
  | configuration
  | typeResolution
  | lookup
  | parse
  | generation
  | io
  | json
deriving Repr, DecidableEq

def ErrorKind.title : ErrorKind → String
  | configuration => "Configuration error"
  | typeResolution => "Type resolution error"
  | lookup => "Lookup error"
  | parse => "Parse error"
  | generation => "Generation error"
  | io => "IO error"
  | json => "JSON error"

inductive Error where
  | fileExtensionUnset
  | templatePathUnset
  | initialismsUnreadable (path : String) (cause : ReadFailure)
  | conversionsUnreadable (path : String) (cause : ReadFailure)
  | tableMalformed (reason : String)
  | tableFileMalformed (path report : String)
  | templatesUnreadable (directory : String) (cause : ReadFailure)
  | templatesMalformed (directory reason : String)
  | typeUnresolvable (field : String)
  | groupUnsupported (field : String)
  | conversionMissing (kind field : String)
  | repeatedConversionMissing (field : String)
  | payloadMissing (payload : Payload) (method type : String)
  | requestMalformed (reason : String)
  /-- A template could not be rendered; the cause is kept when a text filter gave it. -/
  | renderingFailed (template reason : String) (cause : Option FilterFailure)
  /-- A renderer gave up, for a reason that it reports in its own words. -/
  | reported (kind : ErrorKind) (report : String)
deriving Repr, DecidableEq

namespace Error

def kind : Error → ErrorKind
  | fileExtensionUnset | templatePathUnset => .configuration
  | initialismsUnreadable .. | conversionsUnreadable .. => .configuration
  | tableMalformed _ | tableFileMalformed .. => .configuration
  | templatesUnreadable .. | templatesMalformed .. => .configuration
  | typeUnresolvable _ | groupUnsupported _ => .typeResolution
  | conversionMissing .. | repeatedConversionMissing _ => .typeResolution
  | payloadMissing .. => .lookup
  | requestMalformed _ => .parse
  | renderingFailed .. => .generation
  | reported kind _ => kind

def detail : Error → String
  | fileExtensionUnset =>
      "'file_ext' option was not specified! See --[name]_out=file_ext=<value>,<other_options>:" ++
        "/path/to/output or --[name]_opt=file_ext=<value>,<other_options> in the protoc " ++
        "command line."
  | templatePathUnset =>
      "'template_path' option was not specified! See --[name]_opt=template_path=<value> in the " ++
        "protoc command line. Alternatively, set the TEMPLATE_PATH environment variable."
  | initialismsUnreadable path cause =>
      "Failed to read initialisms file " ++ path ++ ": " ++ cause.message
  | conversionsUnreadable path cause =>
      "Failed to read type conversions file " ++ path ++ ": " ++ cause.message
  | tableMalformed reason => "Malformed type conversions table: " ++ reason
  | tableFileMalformed path report => report ++ " (" ++ path ++ ")"
  | templatesUnreadable directory cause =>
      "Failed to read template directory " ++ directory ++ ": " ++ cause.message
  | templatesMalformed directory reason =>
      "Failed to load templates from " ++ directory ++ ": " ++ reason
  | typeUnresolvable field => "Field '" ++ field ++ "' has no resolvable type"
  | groupUnsupported field => "Field '" ++ field ++ "' is a group, which is not supported"
  | conversionMissing kind field => "No conversion for " ++ kind ++ " (field '" ++ field ++ "')"
  | repeatedConversionMissing field =>
      "No 'repeated' conversion for repeated field '" ++ field ++ "'"
  | payloadMissing payload method type =>
      "Method '" ++ method ++ "' uses '" ++ type ++ "', which is not a " ++ payload.title ++
        " message of this file"
  | requestMalformed reason => "Failed to decode CodeGeneratorRequest: " ++ reason
  | renderingFailed template reason cause =>
      "Failed to render template '" ++ template ++ "': " ++ reason ++
        (match cause with
        | none => ""
        | some failure => ": " ++ failure.message)
  | reported _ report => report

def message (error : Error) : String :=
  error.kind.title ++ ": " ++ error.detail

end Error
end BindingPress
