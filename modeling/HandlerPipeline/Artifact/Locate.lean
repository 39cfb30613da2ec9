import HandlerPipeline.FileTree

/-!
# Where a plain artifact finds its modules

A plain artifact puts its service root and the parts of a module together as texts. Where the folder
of that name is a package, the module is the package's; otherwise it is the single file beside it,
whether one exists or not.
-/

namespace HandlerPipeline.Artifact

/-- Where a module is loaded from. -/
structure Located where
  location : String
  /-- The folders that modules inside it are looked for in, where it is a package. -/
  search? : Option (List String)
  deriving DecidableEq, Repr

/-- Where the module of these parts is loaded from, below the service root that is the path
`serviceRoot`. -/
def locate (t : FileTree) (cwd : List String) (serviceRoot : String) (parts : List String) :
    Located :=
  let base := Path.join serviceRoot parts
  let packageInit := Path.join base ["__init__.py"]
  if t.isFile (Path.walk cwd packageInit) then ⟨packageInit, some [base]⟩ else ⟨base ++ ".py", none⟩

end HandlerPipeline.Artifact
