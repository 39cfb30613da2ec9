import HandlerPipeline.Text.CodeRange

/-!
# Blank characters

The characters that separate words: the ASCII controls from tab to carriage return and from file
separator to unit separator, the space, and the Unicode separators (29 in all). References must
not hold any of them.
-/

namespace HandlerPipeline.Text

/-- The ranges of blank characters. -/
def blankRanges : CodeRanges :=
  [(0x9, 0xd), (0x1c, 0x20), (0x85, 0x85), (0xa0, 0xa0), (0x1680, 0x1680), (0x2000, 0x200a),
   (0x2028, 0x2029), (0x202f, 0x202f), (0x205f, 0x205f), (0x3000, 0x3000)]

/-- The character is blank. -/
def isBlank (c : Char) : Bool := blankRanges.has c

example : isBlank ' ' = true ∧ isBlank '\n' = true ∧ isBlank 'a' = false := by decide

/-- The blanks of ASCII that may surround a number: tab to carriage return, and the space. -/
def isAsciiBlank (c : Char) : Bool := c == ' ' || (decide (9 ≤ c.toNat) && decide (c.toNat ≤ 13))

end HandlerPipeline.Text
