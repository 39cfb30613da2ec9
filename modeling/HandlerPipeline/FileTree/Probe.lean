import HandlerPipeline.FileTree
import HandlerPipeline.Variant.Resolve

/-!
# Probing file trees

A module has a source where its package or its file stands under the service root. The source is
typed where a stub stands beside it or its folder carries the marker of typed packages.
-/

namespace HandlerPipeline.FileTree

/-- The location of a module under a root, without suffix. -/
def stem (root : List String) (path : String) : List String := root ++ ModulePath.components path

/-- The variant of the source in one form. -/
def formVariant (t : FileTree) (stem : List String) (form : SourceForm) : Variant :=
  if t.isFile (form.stub stem) || t.isFile (form.marker stem) then .typed else .plain

/-- The variant of a module under a root, if it has a source. -/
def classify (t : FileTree) (root : List String) (path : String) : Option Variant :=
  (t.sourceForm? (stem root path)).map (t.formVariant (stem root path))

/-- The probe of a service root, which its remarks call `rootName`. -/
def probe (t : FileTree) (root : List String) (rootName : String) : Probe where
  classify path := .ok (t.classify root path)
  remarks path :=
    if (t.classify root path).isSome then []
    else
      [⟨.resolver, .debug,
        "No source found for module " ++ path ++ " under " ++ rootName⟩]

end HandlerPipeline.FileTree
