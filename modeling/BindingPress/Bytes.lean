/-! Byte strings, and the texts that they spell. -/

namespace BindingPress

abbrev Bytes := List UInt8

namespace Bytes

def ofText (text : String) : Bytes :=
  text.toUTF8.toList

/-- The text whose UTF-8 form this is. -/
def text? (bytes : Bytes) : Option String :=
  String.fromUTF8? (ByteArray.mk bytes.toArray)

end Bytes
end BindingPress
