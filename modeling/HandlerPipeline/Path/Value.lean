import HandlerPipeline.Path
import HandlerPipeline.Text.Quoted

/-!
# Paths as values

A path that has been taken apart: what it begins with, and the names behind that. Its last name may
be exchanged, also in part: what stands behind the last dot of a name, with the dot, is its suffix.
-/

namespace HandlerPipeline

/-- A path. Two slashes in front, not one and not three, stay two. -/
structure PathValue where
  /-- The slashes in front; none where the path is relative. -/
  root : String
  names : List String
  deriving DecidableEq, Repr

/-- Why a name cannot be exchanged. -/
inductive PathError where
  /-- The path has no name. -/
  | emptyName (path : PathValue)
  | invalidName (name : String)
  | invalidSuffix (suffix : String)
  deriving DecidableEq, Repr

namespace PathValue

/-- The slashes in front of a path that count. -/
def rootOf (path : String) : String :=
  match path.toList with
  | '/' :: '/' :: '/' :: _ => "/"
  | '/' :: '/' :: _ => "//"
  | '/' :: _ => "/"
  | _ => ""

/-- Takes a path apart. Empty names and single dots vanish, two dots stay. -/
def ofText (path : String) : PathValue := ⟨rootOf path, Path.components path⟩

/-- The text of the path. -/
def text (p : PathValue) : String :=
  if p.root = "" ∧ p.names = [] then "." else p.root ++ "/".intercalate p.names

/-- Where the path leads from the folder `cwd`. -/
def location (cwd : List String) (p : PathValue) : List String :=
  Path.follow (if p.root = "" then cwd else [Path.root]) p.names

/-- The path with one more component behind it. An absolute component takes the path's place. -/
def joinNext (p : PathValue) (component : String) : PathValue :=
  let next := ofText component
  if next.root = "" then ⟨p.root, p.names ++ next.names⟩ else next

/-- The path with components behind it, one after the other. -/
def join (p : PathValue) (components : List String) : PathValue := components.foldl joinNext p

/-- The last name, empty where there is none. -/
def name (p : PathValue) : String := p.names.getLast?.getD ""

/-- The path to the folder above. -/
def parent (p : PathValue) : PathValue := ⟨p.root, p.names.dropLast⟩

/-- The path with another last name. -/
def withName (p : PathValue) (name : String) : Except PathError PathValue :=
  if p.name = "" then .error (.emptyName p)
  else if name = "" ∨ name.toList.getLast? = some '/' ∨ rootOf name ≠ "" ∨
      (Path.components name).length ≠ 1 then
    .error (.invalidName name)
  else .ok ⟨p.root, p.names.dropLast ++ [name]⟩

/-- A name without its suffix, if it has one. A dot in front or at the end makes no suffix. -/
def unsuffixed (name : String) : String :=
  match Text.cutLast '.' name.toList with
  | some (before, after) =>
    if before.isEmpty || after.isEmpty then name else String.ofList before
  | none => name

/-- The path with another suffix at its last name. -/
def withSuffix (p : PathValue) (suffix : String) : Except PathError PathValue :=
  if '/' ∈ suffix.toList ∨ (suffix ≠ "" ∧ suffix.toList.head? ≠ some '.') ∨ suffix = "." then
    .error (.invalidSuffix suffix)
  else if p.name = "" then .error (.emptyName p)
  else .ok ⟨p.root, p.names.dropLast ++ [unsuffixed p.name ++ suffix]⟩

example : (ofText "/a//./b/../c").names = ["a", "b", "..", "c"] := by decide
example : unsuffixed "b.tar.gz" = "b.tar" := by decide
example : unsuffixed ".b" = ".b" := by decide

end PathValue

/-- The message of a path error. -/
def PathError.message : PathError → String
  | emptyName path => "PosixPath(" ++ Text.quote path.text ++ ") has an empty name"
  | invalidName name => "Invalid name " ++ Text.quote name
  | invalidSuffix suffix => "Invalid suffix " ++ Text.quote suffix

end HandlerPipeline
