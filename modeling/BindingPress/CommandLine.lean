import BindingPress.Generation

/-! The command line: what its arguments ask for, and what is printed. -/

namespace BindingPress.CommandLine

inductive Invocation where
  /-- Answer the request on standard input; when verbose, also report what was done. -/
  | answer (verbose : Bool)
  | version
  | help
deriving Repr, DecidableEq

/-- What one argument asks for, when that is not an answer: an option that is given twice or not
known is an error. -/
inductive Step where
  | go (verbose : Bool)
  | stop (invocation : Invocation)
  | refuse

def verboseAgain (verbose : Bool) : Step :=
  if verbose then .refuse else .go true

/-- Options of one letter, several of which may stand behind one dash. -/
def letters : (verbose : Bool) → List Char → Step
  | verbose, [] => .go verbose
  | verbose, 'v' :: rest => if verbose then .refuse else letters true rest
  | _, 'V' :: _ => .stop .version
  | _, 'h' :: _ => .stop .help
  | _, _ => .refuse

def argument (verbose : Bool) (text : String) : Step :=
  match text.toList with
  | '-' :: '-' :: name =>
      if name = "verbose".toList then verboseAgain verbose
      else if name = "version".toList then .stop .version
      else if name = "help".toList then .stop .help
      else .refuse
  | '-' :: first :: rest => letters verbose (first :: rest)
  | _ => .refuse

/-- Reads the arguments from left to right, up to the first that settles what is asked for. Two
dashes alone end the options, after which nothing may follow. -/
def parseFrom? : (verbose : Bool) → List String → Option Invocation
  | verbose, [] => some (.answer verbose)
  | verbose, text :: rest =>
      if text = "--" then
        if rest.isEmpty then some (.answer verbose) else none
      else
        match argument verbose text with
        | .go verbose => parseFrom? verbose rest
        | .stop invocation => some invocation
        | .refuse => none

def parse? (arguments : List String) : Option Invocation :=
  parseFrom? false arguments

def versionText : String :=
  "protoc-gen-mavsdk 0.4.1\n"

def helpText : String :=
  "protoc plugin generating MAVSDK bindings from templates\n\n" ++
    "Usage: protoc-gen-mavsdk [OPTIONS]\n\n" ++
    "Options:\n" ++
    "  -v, --verbose  Log at debug level and print a summary to stderr\n" ++
    "  -h, --help     Print help\n" ++
    "  -V, --version  Print version\n\n" ++
    "EXAMPLES:\n" ++
    "  protoc --plugin=protoc-gen-mavsdk=$(which protoc-gen-mavsdk) \\\n" ++
    "    --mavsdk_out=. \\\n" ++
    "    --mavsdk_opt=file_ext=h,template_path=templates/cpp \\\n" ++
    "    action/action.proto\n"

def summary : Response → String
  | .failed message => "✗ " ++ message ++ "\n"
  | .generated files =>
      "✓ Generated " ++ toString files.length ++ " file(s)\n" ++
        String.join (files.map fun file => "  → " ++ file.name ++ "\n")

structure Outcome where
  code : UInt32
  output : Bytes
  report : String

def usageError : Outcome := ⟨2, [], "error: unexpected argument\n"⟩

/-- Runs the program on given files. -/
def execute (files : FileSource) (arguments : List String) (input : Bytes)
    (environment : Option String) (wording : Wording := {}) : Outcome :=
  match parse? arguments with
  | none => usageError
  | some .version => ⟨0, Bytes.ofText versionText, ""⟩
  | some .help => ⟨0, Bytes.ofText helpText, ""⟩
  | some (.answer verbose) =>
      let response := respond files input environment wording
      ⟨0, response.encode, if verbose then summary response else ""⟩

end BindingPress.CommandLine
