/-!
# Lines

A text is cut into lines at its line boundaries: the line feeds and returns of ASCII and Unicode,
and the ASCII separators of files, groups and records. A return and the line feed behind it are one
boundary. A boundary ends a line, so what follows the last one is a line only where it is not empty.
-/

namespace HandlerPipeline.Text

/-- The characters that end a line. -/
def lineBoundaries : List Char :=
  ['\n', '\x0b', '\x0c', '\r', '\x1c', '\x1d', '\x1e', '\u0085', '\u2028', '\u2029']

/-- The character ends a line. -/
def isLineBoundary (c : Char) : Bool := lineBoundaries.contains c

/-- The lines of a text, without what ends them. -/
def lines : List Char → List (List Char)
  | [] => []
  | '\r' :: '\n' :: rest => [] :: lines rest
  | c :: rest =>
    if isLineBoundary c then [] :: lines rest
    else
      match lines rest with
      | [] => [[c]]
      | line :: others => (c :: line) :: others

/-- The lines that a text becomes when it is written and ended. -/
def writtenLines (text : String) : List String :=
  (lines (text.toList ++ ['\n'])).map String.ofList

example : lines ['a', '\r', '\n', 'b', '\n', '\n'] = [['a'], ['b'], []] := by rfl

end HandlerPipeline.Text
