import BindingPress.CommandLine

/-! The program: reads the request from standard input and writes the response to standard
output. -/

namespace BindingPress.Program

/-- Why the system refused to read; other causes count as a missing file. -/
def readFailure : IO.Error → ReadFailure
  | .inappropriateType .. => .notDirectory
  | _ => .missing

def readFile (path : String) : IO (Except ReadFailure Bytes) := do
  if path = "" then return .error .missing
  if ← ((← IO.currentDir) / path).isDir then return .error .isDirectory
  try
    let content ← IO.FS.readBinFile path
    return .ok content.toList
  catch error => return .error (readFailure error)

def listFiles (path : String) : IO (Except ReadFailure (List (String × Bytes))) := do
  if path = "" then return .error .missing
  try
    let mut files := []
    for entry in ← ((← IO.currentDir) / path).readDir do
      if !(← entry.path.isDir) then
        let content ← IO.FS.readBinFile entry.path
        files := (entry.fileName, content.toList) :: files
    return .ok files
  catch error => return .error (readFailure error)

/-- Reads ahead the files that answering a request takes. -/
def filesFor (input : Bytes) (environment : Option String) : IO FileSource := do
  let parameters := do
    let request ← Request.decode? input
    (Parameters.parse request.parameter environment).toOption
  match parameters with
  | none => return FileTree.empty.source
  | some parameters =>
      let initialisms ← readFile parameters.initialismsPath
      let conversions ← readFile parameters.conversionsPath
      let templates ← listFiles parameters.templatePath
      return {
        read := fun path => if path = parameters.initialismsPath then initialisms else conversions
        list := fun _ => templates }

def finish (outcome : CommandLine.Outcome) : IO UInt32 := do
  IO.eprint outcome.report
  let output ← IO.getStdout
  output.write (ByteArray.mk outcome.output.toArray)
  output.flush
  return outcome.code

end BindingPress.Program

open BindingPress in
def main (arguments : List String) : IO UInt32 := do
  let environment ← IO.getEnv "TEMPLATE_PATH"
  match CommandLine.parse? arguments with
  | some (.answer _) =>
      let input := (← (← IO.getStdin).readBinToEnd).toList
      let files ← Program.filesFor input environment
      Program.finish (CommandLine.execute files arguments input environment)
  | _ => Program.finish (CommandLine.execute FileTree.empty.source arguments [] environment)
