import BindingPress.Conversion
import BindingPress.FileSource
import BindingPress.Naming.Identifier

/-! What a binding brings along beside its templates. -/

namespace BindingPress

structure Settings where
  initialisms : Naming.Initialisms := {}
  conversions : ConversionTable := {}
deriving Repr, DecidableEq

namespace Settings

def loadInitialisms (files : FileSource) (path : String) : Except Error Naming.Initialisms :=
  match files.readText path with
  | .ok text => .ok (Naming.Initialisms.parse text)
  | .error cause => .error (.initialismsUnreadable path cause)

def loadConversions (files : FileSource) (path : String) (wording : Wording := {}) :
    Except Error ConversionTable :=
  match files.readText path with
  | .ok text =>
      (ConversionTable.parse text wording).mapError fun error =>
        .tableFileMalformed path error.message
  | .error cause => .error (.conversionsUnreadable path cause)

/-- Reads the initialisms first, and then the conversions. -/
def load (files : FileSource) (initialismsPath conversionsPath : String)
    (wording : Wording := {}) : Except Error Settings := do
  let initialisms ← loadInitialisms files initialismsPath
  let conversions ← loadConversions files conversionsPath wording
  return { initialisms, conversions }

end Settings
end BindingPress
