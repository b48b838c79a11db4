import BindingPress.Error
import BindingPress.Wire.Record

/-! The answer to a request, and its encoding. -/

namespace BindingPress

structure OutputFile where
  name : String
  content : String
deriving Repr, DecidableEq

/-- Either an error or files, of which there may be none. -/
inductive Response where
  | failed (message : String)
  | generated (files : List OutputFile)
deriving Repr, DecidableEq

def OutputFile.encode (file : OutputFile) : Bytes :=
  Wire.chunk 1 (Bytes.ofText file.name) ++ Wire.chunk 15 (Bytes.ofText file.content)

namespace Response

def ofResult : Except Error (List OutputFile) → Response
  | .ok files => generated files
  | .error error => failed error.message

def files : Response → List OutputFile
  | failed _ => []
  | generated files => files

def error? : Response → Option String
  | failed message => some message
  | generated _ => none

def encode : Response → Bytes
  | failed message => Wire.chunk 1 (Bytes.ofText message)
  | generated files => files.flatMap fun file => Wire.chunk 15 file.encode

end Response
end BindingPress
