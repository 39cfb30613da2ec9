import HandlerPipeline.Text.Quoted

/-!
# JSON strings in ASCII

The string syntax of JSON with every character beyond ASCII written by UTF-16 units, so that the
text can be shown on any terminal.
-/

namespace HandlerPipeline.Text

/-- The escape of one UTF-16 unit. -/
def unitEscape (unit : Nat) : List Char := '\\' :: 'u' :: hexDigits 4 unit

/-- A character as it stands in a JSON string: printable ASCII is written raw, and beyond the basic
plane a pair of units is written. -/
def jsonChar (c : Char) : List Char :=
  if c = '"' ∨ c = '\\' then ['\\', c]
  else if c = '\n' then ['\\', 'n']
  else if c = '\r' then ['\\', 'r']
  else if c = '\t' then ['\\', 't']
  else if c = '\x0c' then ['\\', 'f']
  else if c = '\x08' then ['\\', 'b']
  else if 0x20 ≤ c.toNat ∧ c.toNat ≤ 0x7e then [c]
  else if c.toNat < 0x10000 then unitEscape c.toNat
  else
    unitEscape (0xd800 + (c.toNat - 0x10000) / 0x400) ++
      unitEscape (0xdc00 + (c.toNat - 0x10000) % 0x400)

/-- The JSON string of a text. -/
def jsonString (text : String) : String :=
  String.ofList ('"' :: (text.toList.flatMap jsonChar ++ ['"']))

example : jsonString "é😀\"" = "\"\\u00e9\\ud83d\\ude00\\\"\"" := by decide

end HandlerPipeline.Text
