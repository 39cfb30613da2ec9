import HandlerPipeline.Text.Identifier
import HandlerPipeline.Text.Pieces
import HandlerPipeline.Text.Quoted

/-!
# Artifact folders

The folder that receives the artifacts is imported as a package, so each of its segments has to be
a name. Slashes at its two ends say nothing and are dropped.
-/

namespace HandlerPipeline.Folder

/-- The segments of a folder, without the slashes around it. -/
def segments (folder : String) : List String :=
  (Text.pieces (· == '/') (Text.trimEnds (· == '/') folder.toList)).map String.ofList

/-- The folder without the slashes around it, or its first segment that is no name. -/
def read (folder : String) : Except String String :=
  match (segments folder).find? (!Text.isName ·) with
  | some segment => .error segment
  | none => .ok ("/".intercalate (segments folder))

/-- The complaint about a folder with the segment `segment`. -/
def complaint (folder segment : String) : String :=
  "folder_name " ++ Text.quote folder ++ " cannot be imported: " ++ Text.quote segment ++
    " is not a valid module name"

example : read "/build/chains/" = .ok "build/chains" := by rfl
example : read "a//class" = .error "" := by rfl

end HandlerPipeline.Folder
