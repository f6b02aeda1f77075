/-!
# Bytes and texts

Files hold bytes. The bytes that are well-formed UTF-8 stand for a text.
-/

namespace LossCascade.Text

/-- The text of some bytes, if they are well-formed UTF-8. -/
def ofBytes? (bytes : List UInt8) : Option String :=
  String.fromUTF8? (ByteArray.mk bytes.toArray)

/-- The bytes of a text. -/
def toBytes (s : String) : List UInt8 :=
  s.toUTF8.toList

/-- Whether a place in the bytes of a text is the start of a character or the end of the text. -/
def isBoundary (bytes : List UInt8) (place : Nat) : Bool :=
  match bytes[place]? with
  | some b => b &&& 0xC0 != 0x80
  | none => place == bytes.length

end LossCascade.Text
