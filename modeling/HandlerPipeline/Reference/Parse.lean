import HandlerPipeline.Reference
import HandlerPipeline.Text.Blank
import HandlerPipeline.Text.Identifier
import HandlerPipeline.Text.Quoted

/-!
# Reading references

The text of a reference is read from left to right. The first blank, or the first separator that
stands where a part has to begin, is the defect that is reported, whatever follows it. A text
without such a defect is cut at its last separator, which has to be a dot; what follows it has to
be a name. Reading token by token, as the grammar of references says, comes to the same
(`HandlerPipeline.Reference.Grammar`).
-/

namespace HandlerPipeline

namespace Reference

/-- What is wrong with the text of a reference. Columns count characters from 1. -/
inductive SyntaxError where
  | empty
  | blank (c : Char) (column : Nat)
  | emptyPart (separator : Char) (column : Nat)
  | missingExport
  | bareName
  | undotted (column : Nat)
  | badExport (name : String) (column : Nat)
  deriving DecidableEq, Repr

namespace SyntaxError

/-- Where the defect stands, if it stands somewhere. -/
def column? : SyntaxError → Option Nat
  | empty | missingExport | bareName => none
  | blank _ column | emptyPart _ column | undotted column | badExport _ column => some column

/-- The description of the defect, apart from its column. -/
def description : SyntaxError → String
  | empty => "empty handler reference"
  | blank c _ => "unexpected character " ++ Text.quote (String.singleton c)
  | emptyPart separator _ =>
    "empty path segment before " ++ Text.quote (String.singleton separator)
  | missingExport => "missing export name after the module path"
  | bareName => "expected \"module.export\", got a bare name"
  | undotted _ => "reference must end with \".<export>\""
  | badExport name _ => "export " ++ Text.quote name ++ " is not a valid Python identifier"

/-- The message of the defect. -/
def message (e : SyntaxError) : String :=
  match e.column? with
  | none => e.description
  | some column => e.description ++ " at column " ++ toString column

end SyntaxError

/-- The first blank, or separator without a part before it, of a text whose first character is in
`column`. `fresh` says that a part has to begin there. -/
def firstDefect (fresh : Bool) (column : Nat) : List Char → Option SyntaxError
  | [] => none
  | c :: rest =>
    if Text.isBlank c then some (.blank c column)
    else if isSeparator c then
      if fresh then some (.emptyPart c column) else firstDefect true (column + 1) rest
    else firstDefect false (column + 1) rest

/-- What stands before the last separator, that separator, and what stands behind it. -/
def splitLast : List Char → Option (List Char × Char × List Char)
  | [] => none
  | c :: rest =>
    match splitLast rest with
    | some (before, separator, after) => some (c :: before, separator, after)
    | none => if isSeparator c then some ([], c, rest) else none

/-- Reads a reference. -/
def readChars (text : List Char) : Except SyntaxError Reference :=
  if text.isEmpty then .error .empty
  else
    match firstDefect true 1 text with
    | some defect => .error defect
    | none =>
      match splitLast text with
      | none => .error .bareName
      | some (_, _, []) => .error .missingExport
      | some (before, separator, after) =>
        let name := String.ofList after
        if separator ≠ '.' then .error (.undotted (before.length + 1))
        else if !Text.isName name then .error (.badExport name (before.length + 2))
        else .ok ⟨String.ofList before, name⟩

/-- Reads the text of a reference. -/
def read (text : String) : Except SyntaxError Reference := readChars text.toList

example : read "src/auth.check" = .ok ⟨"src/auth", "check"⟩ := by rfl
example : read "a..b c" = .error (.emptyPart '.' 3) := by rfl
example : read "a.b/c" = .error (.undotted 4) := by rfl

end Reference

end HandlerPipeline
