import HandlerPipeline.Text.Blank
import HandlerPipeline.Text.Digit
import HandlerPipeline.Text.Quoted

/-!
# Integers in texts

An integer is written as an optional sign and decimal digits of any script, with single underscores
between digits and blanks around the whole. A number with too many digits is refused as such, even
when something that does not belong follows it; and an integer of so many digits is not written
either.
-/

namespace HandlerPipeline.Integer

/-- Why a text is no integer. -/
inductive ReadError where
  | malformed (text : String)
  | tooLong (digits : Nat)
  deriving DecidableEq, Repr

/-- The most digits that a number may have. -/
def maxDigits : Nat := 4300

/-- What is said of numbers with more digits. -/
def limitText : String :=
  "Exceeds the limit (" ++ toString maxDigits ++ " digits) for integer string conversion"

/-- What is said of how to have more digits. -/
def limitAdvice : String := "; use sys.set_int_max_str_digits() to increase the limit"

/-- The most characters of a refused text that its message shows. -/
def shownCharacters : Nat := 200

/-- The message of a refusal. -/
def ReadError.message : ReadError → String
  | malformed text =>
    "invalid literal for int() with base 10: " ++
      String.ofList ((Text.quote text).toList.take shownCharacters)
  | tooLong digits => limitText ++ ": value has " ++ toString digits ++ " digits" ++ limitAdvice

/-- The blanks that may surround a number: in ASCII only those that move the carriage. -/
def surrounds (c : Char) : Bool := if c.toNat < 0x80 then Text.isAsciiBlank c else Text.isBlank c

/-- A character of the run of digits. -/
def isRunChar (c : Char) : Bool := c == '_' || (Text.digitValue? c).isSome

/-- Every underscore stands between two digits; `needsDigit` says that a digit has to follow. -/
def underscoresFit (needsDigit : Bool) : List Char → Bool
  | [] => !needsDigit
  | c :: rest =>
    if c == '_' then !needsDigit && underscoresFit true rest else underscoresFit false rest

/-- The sign of a number, and what follows it. -/
def splitSign : List Char → Bool × List Char
  | '-' :: rest => (true, rest)
  | '+' :: rest => (false, rest)
  | text => (false, text)

/-- The number that digits write. -/
def ofDigits (digits : List Nat) : Nat := digits.foldl (fun n d => 10 * n + d) 0

/-- Reads an integer. -/
def read (text : String) : Except ReadError Int :=
  let (negative, body) := splitSign (text.toList.dropWhile surrounds)
  let run := body.takeWhile isRunChar
  let digits := run.filterMap Text.digitValue?
  if !underscoresFit true run then .error (.malformed text)
  else if digits.length > maxDigits then .error (.tooLong digits.length)
  else if !(body.dropWhile isRunChar).all surrounds then .error (.malformed text)
  else .ok (if negative then -(ofDigits digits : Int) else ofDigits digits)

/-- The integer has too many digits to be written. No reduction opens this test: it computes a power
that only the kernel gets past. -/
@[irreducible]
def isLong (n : Int) : Bool := Nat.pow 10 maxDigits ≤ n.natAbs

/-- The text of an integer in base ten, unless it has too many digits. -/
def text? (n : Int) : Option String := if isLong n then none else some (toString n)

/-- What is said of an integer that is not written. -/
def unwrittenMessage : String := limitText ++ limitAdvice

example : read " -1_000 " = .ok (-1000) := by rfl
example : read "٣" = .ok 3 := by rfl
example : read "1__0" = .error (.malformed "1__0") := by rfl

end HandlerPipeline.Integer
