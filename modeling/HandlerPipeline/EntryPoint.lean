import HandlerPipeline.Artifact.Load
import HandlerPipeline.Text.Pieces

/-!
# Entry points

An entry point tells a host where the handler of a function is. What stands behind its last dot is
an export; what stands before it is the name of the module that has the export, with slashes or dots
between its parts. The host reads slashes as dots and imports the module by that name from the
service root.
-/

namespace HandlerPipeline

/-- What an entry point names. -/
structure EntryPoint where
  /-- The dotted name of a module. -/
  moduleName : String
  exportName : String
  deriving DecidableEq, Repr

namespace EntryPoint

/-- Why a host does not come to a module. -/
inductive Failure where
  /-- The entry point has no dot. -/
  | undotted
  /-- The module has no name. -/
  | unnamed
  /-- The name begins with a dot: the module is relative to another one. -/
  | relative (name : String)
  | load (e : LoadError)
  deriving DecidableEq, Repr

/-- Takes an entry point apart at its last dot. -/
def read (text : String) : Except Failure EntryPoint :=
  match Text.cutLast '.' text.toList with
  | none => .error .undotted
  | some (before, after) =>
    .ok ⟨String.ofList (before.map fun c => if c = '/' then '.' else c), String.ofList after⟩

/-- The parts of the module's name. -/
def parts (e : EntryPoint) : List String :=
  (Text.pieces (· == '.') e.moduleName.toList).map String.ofList

/-- The file that the module is imported from. -/
def file (tree : FileTree) (root : List String) (e : EntryPoint) :
    Except Failure (List String) :=
  match e.moduleName.toList with
  | [] => .error .unnamed
  | '.' :: _ => .error (.relative e.moduleName)
  | _ =>
    match Artifact.descend tree root [] e.parts with
    | .ok () => .ok (Artifact.loadedFile tree (root ++ e.parts))
    | .error cause => .error (.load cause)

/-- Where a host looks for the handler: the file that it imports, and the export in it. -/
def resolve (tree : FileTree) (root : List String) (text : String) :
    Except Failure (List String × String) :=
  match read text with
  | .error f => .error f
  | .ok e => (e.file tree root).map fun file => (file, e.exportName)

example : read "a/b.c.handler" = .ok ⟨"a.b.c", "handler"⟩ := by rfl

end EntryPoint

end HandlerPipeline
