/-!
# Pieces of a text

A text is cut at its separators. There is always one more piece than there are separators, so a
text without separators is one piece, and two separators side by side enclose an empty one.
-/

namespace HandlerPipeline.Text

/-- The pieces of a text between the characters that satisfy `separates`. -/
def pieces (separates : Char → Bool) : List Char → List (List Char)
  | [] => [[]]
  | c :: rest =>
    if separates c then [] :: pieces separates rest
    else
      match pieces separates rest with
      | [] => [[c]]
      | piece :: others => (c :: piece) :: others

/-- A text has at least one piece. -/
theorem pieces_ne_nil {separates : Char → Bool} {text : List Char} :
    pieces separates text ≠ [] := by
  cases text with
  | nil => simp [pieces]
  | cons c rest =>
    unfold pieces
    split
    · simp
    · split <;> simp

/-- What stands before the last `cut` of a text, and what stands behind it. -/
def cutLast (cut : Char) : List Char → Option (List Char × List Char)
  | [] => none
  | c :: rest =>
    match cutLast cut rest with
    | some (before, after) => some (c :: before, after)
    | none => if c = cut then some ([], rest) else none

/-- The text without the characters at its two ends that satisfy `trims`. -/
def trimEnds (trims : Char → Bool) (text : List Char) : List Char :=
  ((text.dropWhile trims).reverse.dropWhile trims).reverse

example : pieces (· == '/') ['a', '/', '/', 'b'] = [['a'], [], ['b']] := by rfl
example : cutLast '.' ['a', '.', 'b', '.', 'c'] = some (['a', '.', 'b'], ['c']) := by rfl
example : trimEnds (· == '/') ['/', 'a', '/', 'b', '/'] = ['a', '/', 'b'] := by rfl

end HandlerPipeline.Text
