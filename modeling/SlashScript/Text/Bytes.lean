/-
Lines of bytes. Both characters that end a line are single bytes, so the lines can be told apart
before any byte is read as text, and each line is then read on its own.
-/

import SlashScript.Text.Lines

namespace SlashScript.Text

/-- The lines of a sequence of bytes, without their endings. -/
def byteLines (bytes : List UInt8) : List (List UInt8) :=
  (lines (bytes.map Char.ofUInt8)).map fun line => line.map Char.toUInt8

/-- The text that bytes stand for in UTF-8, if they stand for one. -/
def ofBytes? (bytes : List UInt8) : Option String :=
  String.fromUTF8? (ByteArray.mk bytes.toArray)

end SlashScript.Text
