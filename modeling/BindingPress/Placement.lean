import BindingPress.Descriptor
import BindingPress.Naming.Identifier
import BindingPress.Parameters

/-! Which files a binding is generated for, under which names, and where the output goes. -/

namespace BindingPress

/-- Packages that only support others: those of the schema language and those of the options. -/
def isSkippedPackage (package : String) : Bool :=
  "google".toList.isPrefixOf package.toList || "com.google".toList.isPrefixOf package.toList ||
    package == "mavsdk.options" || package == "options.mavsdk"

def FileDescriptor.presentedPackage (file : FileDescriptor) (isJava : Bool) : String :=
  if isJava && file.javaPackage != "" then file.javaPackage else file.package

/-- The plugin is named after the file, without its directory and its endings. -/
def pluginName (file : String) (initialisms : Naming.Initialisms) : String :=
  let stem := Text.beforeFirst '.' (Text.afterLast '/' file.toList)
  (Naming.Identifier.parse (String.ofList stem) initialisms).upperCamel

/-- Output lies where the input lay, or, for Java, where its package says. -/
def pluginDirectory (file package : String) (isJava : Bool) : String :=
  if isJava then String.ofList (package.toList.map fun c => if c = '.' then '/' else c)
  else String.ofList (Text.beforeLast '/' file.toList)

def Parameters.outputPath (parameters : Parameters) (name directory : String) : String :=
  match parameters.outputFile with
  | some path => path
  | none =>
      let fileName := name ++ "." ++ parameters.fileExtension.getD ""
      if directory = "" then fileName else directory ++ "/" ++ fileName

end BindingPress
