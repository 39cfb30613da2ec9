import HandlerPipeline.FileTree
import HandlerPipeline.Path.Value
import HandlerPipeline.Reference
import HandlerPipeline.Variant

/-!
# Looking a module up

How a probe finds a module on disk: it puts the path of a service root and the parts of a module
path together, exchanges names and suffixes of what comes out, and looks at these paths from its
working directory. A package goes before a single file, and a stub or a marker beside the source
types it. The errors of a look-up are those of exchanging names; a tree answers every look, so the
errors of a system that refuses one are not among them.
-/

namespace HandlerPipeline.FileTree

/-- A regular file stands where the path leads from the folder `cwd`. -/
def holds (t : FileTree) (cwd : List String) (p : PathValue) : Bool := t.isFile (p.location cwd)

/-- The source file that was found, and its variant. -/
structure Found where
  source : PathValue
  variant : Variant
  deriving DecidableEq, Repr

/-- The source that is found in a package directory, with its variant. -/
def found (t : FileTree) (cwd : List String) (source packageDir : PathValue) :
    Except PathError Found :=
  match source.withSuffix ".pyi" with
  | .error e => .error e
  | .ok stub =>
    .ok ⟨source, if t.holds cwd stub || t.holds cwd (packageDir.join ["py.typed"]) then .typed
      else .plain⟩

/-- Looks up the module `path` below the service root that is the path `root`. -/
def lookUp (t : FileTree) (cwd : List String) (root path : String) :
    Except PathError (Option Found) :=
  let stem := (PathValue.ofText root).join (ModulePath.parts path)
  match stem.withName (stem.name ++ ".py") with
  | .error e => .error e
  | .ok moduleFile =>
    let packageInit := stem.join ["__init__.py"]
    if t.holds cwd packageInit then (t.found cwd packageInit stem).map some
    else if t.holds cwd moduleFile then (t.found cwd moduleFile stem.parent).map some
    else .ok none

end HandlerPipeline.FileTree
