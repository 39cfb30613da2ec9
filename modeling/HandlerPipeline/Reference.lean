import HandlerPipeline.Text.Pieces

/-!
# Handler references

A handler is named by a module path and an export of that module. A module path is a sequence of
parts joined by slashes or dots; both separators mean the same, so `a/b` and `a.b` name one module.
The text of a reference is its path, a dot and its export.
-/

namespace HandlerPipeline

/-- The two characters that separate the parts of a module path. -/
def isSeparator (c : Char) : Bool := c == '/' || c == '.'

namespace ModulePath

/-- The parts of a module path: the texts between its separators, at least one. -/
def parts (path : String) : List String :=
  (Text.pieces isSeparator path.toList).map String.ofList

/-- The dotted name under which the module is imported. -/
def dotted (path : String) : String := ".".intercalate (parts path)

/-- The parts that name directories or files: empty ones vanish. -/
def components (path : String) : List String := (parts path).filter (· ≠ "")

/-- The location of the module's file relative to the service root, without suffix. -/
def fileStem (path : String) : String :=
  match components path with
  | [] => "."
  | names => "/".intercalate names

end ModulePath

/-- A handler: an export of a module. -/
structure Reference where
  modulePath : String
  exportName : String
  deriving DecidableEq, Repr

/-- The text of a reference. -/
def Reference.text (r : Reference) : String := r.modulePath ++ "." ++ r.exportName

end HandlerPipeline
