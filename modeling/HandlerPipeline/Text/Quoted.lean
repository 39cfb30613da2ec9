import HandlerPipeline.Text.Printable

/-!
# Quoted literals

A text inside a message or inside generated source is shown as a quoted literal. The mark is a
single quote, or a double quote when the text holds single quotes only. The mark and the backslash
are escaped by a backslash, tab and the two line ends by their letters, and every other character
that is not printable by its code point in hexadecimal. So a literal never holds a line boundary,
and it ends at its first bare mark.
-/

namespace HandlerPipeline.Text

/-- The hexadecimal digit of `d < 16`. -/
def hexChar (d : Nat) : Char := if d < 10 then Char.ofNat (48 + d) else Char.ofNat (87 + d)

/-- The last `k` hexadecimal digits of `n`, the most significant first. -/
def hexDigits : Nat → Nat → List Char
  | 0, _ => []
  | k + 1, n => hexDigits k (n / 16) ++ [hexChar (n % 16)]

/-- The escape of a character by its code point, in two, four or eight digits. -/
def codeEscape (c : Char) : List Char :=
  if c.toNat < 0x100 then '\\' :: 'x' :: hexDigits 2 c.toNat
  else if c.toNat < 0x10000 then '\\' :: 'u' :: hexDigits 4 c.toNat
  else '\\' :: 'U' :: hexDigits 8 c.toNat

/-- The mark that a text is quoted by: the double quote is taken only where it saves escapes. -/
def quoteMark (text : List Char) : Char :=
  if text.contains '\'' && !text.contains '"' then '"' else '\''

/-- A character as it stands between the marks. -/
def quoteChar (mark c : Char) : List Char :=
  if c = mark ∨ c = '\\' then ['\\', c]
  else if c = '\t' then ['\\', 't']
  else if c = '\n' then ['\\', 'n']
  else if c = '\r' then ['\\', 'r']
  else if isPrintable c then [c]
  else codeEscape c

/-- The quoted literal of a text. -/
def quoted (text : List Char) : List Char :=
  quoteMark text :: (text.flatMap (quoteChar (quoteMark text)) ++ [quoteMark text])

/-- The quoted literal of a text. -/
def quote (text : String) : String := String.ofList (quoted text.toList)

/-- A byte as it stands between the marks: as a character of ASCII, or by its value. -/
def quoteByte (mark : Char) (b : UInt8) : List Char :=
  let c := Char.ofNat b.toNat
  if c = mark ∨ c = '\\' then ['\\', c]
  else if c = '\t' then ['\\', 't']
  else if c = '\n' then ['\\', 'n']
  else if c = '\r' then ['\\', 'r']
  else if 0x20 ≤ b.toNat ∧ b.toNat < 0x7f then [c]
  else '\\' :: 'x' :: hexDigits 2 b.toNat

/-- The literal of a byte string: `b` and the quoted bytes. -/
def quoteBytes (bytes : List UInt8) : String :=
  let mark := quoteMark (bytes.map fun b => Char.ofNat b.toNat)
  String.ofList ('b' :: mark :: (bytes.flatMap (quoteByte mark) ++ [mark]))

example : quote "it's" = "\"it's\"" := by decide
example : quote "a\tb\\\x1b" = "'a\\tb\\\\\\x1b'" := by decide +kernel

end HandlerPipeline.Text
