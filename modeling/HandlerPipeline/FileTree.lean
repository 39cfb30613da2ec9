import HandlerPipeline.Path

/-!
# File trees

A file tree knows which paths are files and which are folders; what the files hold is not its
concern. A path is the list of its components below the root of the tree. The folders on the way to
a file or a folder exist with it.

A tree answers every look. What a system may refuse to look at, because a path or a name in it is too
long or a folder may not be read, is left out: there a look would raise an error of the system.
-/

namespace HandlerPipeline

/-- The files of a tree, and the folders that were made for their own sake. -/
structure FileTree where
  files : List (List String)
  folders : List (List String)
  deriving Repr

namespace FileTree

/-- The tree without files. -/
def empty : FileTree := ⟨[], []⟩

/-- A regular file stands at the path. -/
def isFile (t : FileTree) (path : List String) : Bool := t.files.contains path

/-- A folder stands at the path. -/
def isFolder (t : FileTree) (path : List String) : Bool :=
  path.isEmpty || t.folders.any (path.isPrefixOf ·) ||
    t.files.any (fun f => path.isPrefixOf f && path != f)

/-- The tree with one more file. -/
def addFile (t : FileTree) (path : List String) : FileTree :=
  if t.isFile path then t else { t with files := t.files ++ [path] }

/-- The tree with one more folder. -/
def addFolder (t : FileTree) (path : List String) : FileTree :=
  if t.isFolder path then t else { t with folders := t.folders ++ [path] }

/-- The tree with one more file; a path with a slash at its end makes a folder. -/
def addPath (t : FileTree) (path : String) : FileTree :=
  if path.toList.getLast? == some '/' then t.addFolder (Path.walk [] path)
  else t.addFile (Path.walk [] path)

/-- The tree of some paths. -/
def ofPaths (paths : List String) : FileTree := paths.foldl addPath empty

/-- The path with `suffix` behind its last component. -/
def suffixed (suffix : String) : List String → List String
  | [] => [suffix]
  | [last] => [last ++ suffix]
  | first :: rest => first :: suffixed suffix rest

/-! ## Sources of modules -/

/-- The two forms that the source of a module has: a package, or a single file. -/
inductive SourceForm where
  | package
  | single
  deriving DecidableEq, Repr

namespace SourceForm

/-- The source file of a module, by its location without suffix. -/
def file (stem : List String) : SourceForm → List String
  | package => stem ++ ["__init__.py"]
  | single => suffixed ".py" stem

/-- The stub that types the source file. -/
def stub (stem : List String) : SourceForm → List String
  | package => stem ++ ["__init__.pyi"]
  | single => suffixed ".pyi" stem

/-- The marker that types everything in the source file's folder. -/
def marker (stem : List String) : SourceForm → List String
  | package => stem ++ ["py.typed"]
  | single => stem.dropLast ++ ["py.typed"]

end SourceForm

/-- The form in which a module has a source; a package goes before a single file. -/
def sourceForm? (t : FileTree) (stem : List String) : Option SourceForm :=
  if t.isFile (SourceForm.package.file stem) then some .package
  else if t.isFile (SourceForm.single.file stem) then some .single
  else none

end FileTree

end HandlerPipeline
