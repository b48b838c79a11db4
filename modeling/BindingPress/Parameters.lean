import BindingPress.Error
import BindingPress.Text.Blank

/-! The options that a run is given, as one comma-separated text. -/

namespace BindingPress

structure Parameters where
  /-- The name of the only output file, in place of one name for each input. -/
  outputFile : Option String
  fileExtension : Option String
  templatePath : String
  templateFile : Option String
  initialismsFile : Option String
  conversionsFile : Option String
  lstripBlocks : Bool
  trimBlocks : Bool
deriving Repr, DecidableEq

/-- A setting is an entry with exactly one equals sign. White space around the key does not
count. -/
def setting? (entry : List Char) : Option (String × String) :=
  match Text.split '=' entry with
  | [key, value] => some (String.ofList (Text.trim key), String.ofList value)
  | _ => none

/-- The settings of a parameter text; entries of another form are passed over. -/
def settings (source : String) : List (String × String) :=
  (Text.split ',' source.toList).filterMap setting?

def isAffirmative (value : String) : Bool :=
  ["true".toList, "1".toList, "yes".toList, "on".toList].contains
    ((Text.trim value.toList).map Char.toLower)

def joinPath (directory name : String) : String :=
  if directory = "" then name
  else if directory.toList.getLast? = some '/' then directory ++ name
  else directory ++ "/" ++ name

namespace Parameters

structure Draft where
  outputFile : Option String := none
  fileExtension : Option String := none
  templatePath : Option String := none
  templateFile : Option String := none
  initialismsFile : Option String := none
  conversionsFile : Option String := none
  lstripBlocks : Bool := false
  trimBlocks : Bool := false
deriving Repr, DecidableEq

namespace Draft

/-- Takes in one more setting, which replaces an earlier one of its key. A key of no meaning is
passed over. -/
def enter (draft : Draft) (setting : String × String) : Draft :=
  let (key, value) := setting
  match key with
  | "output_file" => { draft with outputFile := some value }
  | "file_ext" => { draft with fileExtension := some value }
  | "template_path" => { draft with templatePath := some value }
  | "template_file" => { draft with templateFile := some value }
  | "initialisms_file" => { draft with initialismsFile := some value }
  | "conversions_file" => { draft with conversionsFile := some value }
  | "lstrip_blocks" => { draft with lstripBlocks := isAffirmative value }
  | "trim_blocks" => { draft with trimBlocks := isAffirmative value }
  | _ => draft

def ofSettings (settings : List (String × String)) : Draft :=
  settings.foldl enter {}

end Draft

/-- Reads the parameters. The environment may name the template directory when no setting
does. -/
def parse (source : String) (environment : Option String) : Except Error Parameters :=
  let draft := Draft.ofSettings (settings source)
  if draft.fileExtension.isNone && draft.outputFile.isNone then .error .fileExtensionUnset
  else
    match draft.templatePath.orElse (fun _ => environment.filter (· != "")) with
    | none => .error .templatePathUnset
    | some templatePath =>
        .ok {
          outputFile := draft.outputFile
          fileExtension := draft.fileExtension
          templatePath
          templateFile := draft.templateFile
          initialismsFile := draft.initialismsFile
          conversionsFile := draft.conversionsFile
          lstripBlocks := draft.lstripBlocks
          trimBlocks := draft.trimBlocks }

def isJava (parameters : Parameters) : Bool :=
  match parameters.outputFile with
  | some name => Text.endsWith "java".toList name.toList
  | none => parameters.fileExtension == some "java"

def initialismsPath (parameters : Parameters) : String :=
  parameters.initialismsFile.getD (joinPath parameters.templatePath "initialisms")

def conversionsPath (parameters : Parameters) : String :=
  parameters.conversionsFile.getD (joinPath parameters.templatePath "type_conversions")

def templateName (parameters : Parameters) : String :=
  parameters.templateFile.getD "file.j2"

end Parameters
end BindingPress
