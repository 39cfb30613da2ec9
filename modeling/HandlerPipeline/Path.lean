import HandlerPipeline.Text.Pieces

/-!
# Paths

A path is a text of components between slashes. Empty components and single dots lead nowhere; two
dots lead to the folder above, and out of the folder where the path begins if there is none. Paths are
joined by writing components behind one, with a slash where there is none.
-/

namespace HandlerPipeline.Path

/-- The path starts at the root of the file system. -/
def isAbsolute (path : String) : Bool := path.toList.head? == some '/'

/-- The components of a path that lead somewhere. -/
def components (path : String) : List String :=
  ((Text.pieces (· == '/') path.toList).map String.ofList).filter fun c => c ≠ "" && c ≠ "."

/-- Follows components from a folder. -/
def follow (folder : List String) : List String → List String
  | [] => folder
  | ".." :: rest =>
    match folder.getLast? with
    | none | some ".." => follow (folder ++ [".."]) rest
    | some _ => follow folder.dropLast rest
  | component :: rest => follow (folder ++ [component]) rest

/-- The first component of an absolute path. -/
def root : String := "/"

/-- Where a path leads from a folder. -/
def walk (folder : List String) (path : String) : List String :=
  follow (if isAbsolute path then [root] else folder) (components path)

/-- The path with one more component behind it. An absolute component takes the path's place. -/
def joinNext (path component : String) : String :=
  if isAbsolute component then component
  else if path = "" || path.toList.getLast? == some '/' then path ++ component
  else path ++ "/" ++ component

/-- The path with components behind it, one after the other. -/
def join (path : String) (components : List String) : String := components.foldl joinNext path

/-- The location lies in the folder where paths begin. -/
def isBelow (location : List String) : Bool :=
  location.head? ≠ some root && location.head? ≠ some ".."

example : walk ["a", "b"] "../c/./d" = ["a", "c", "d"] := by decide
example : walk ["a"] "../../c" = ["..", "c"] := by decide
example : join "a" ["b", "", "c"] = "a/b/c" := by decide

end HandlerPipeline.Path
