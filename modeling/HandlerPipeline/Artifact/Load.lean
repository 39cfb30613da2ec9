import HandlerPipeline.Artifact
import HandlerPipeline.Artifact.Source
import HandlerPipeline.FileTree.Probe
import HandlerPipeline.Path
import HandlerPipeline.Text.NormalForm

/-!
# Loading artifacts

A host loads an artifact from the artifact folder of its service. The artifact first finds its
modules: a plain one as files below the directory that its import base leads to, a typed one by name
below the service root. In both a package goes before a single file. A module that is imported by
name is found inside its parents, which have to be packages or folders, and becomes an export of its
parent, in place of one of the same name. Then the rows of the artifact's table take the exports of
the modules, one row after the other, the handler for success before the one for failure.

A name that stands in source as a name is taken in its normal form: the parts of a module that a
statement imports, the export that a row takes, and the exports that a module defines. The text that
a module's location or name is given by is taken as it is.

Two names have a meaning in the language that no module can take over. No source binds `__debug__`,
so nothing of such an artifact is loaded. And under `__annotations__` a module keeps what the types
of its variables are: a typed artifact says of what type its table is, and also each module that it
imports by a text, and fails there once a module is bound to that name.
-/

namespace HandlerPipeline

variable {Export : Type}

/-- What a host has: its files, and what the modules among them export. -/
structure Host (Export : Type) where
  tree : FileTree
  exportsOf : List String → Option (List (String × Export))

/-- A handler module of a host. -/
structure HostModule (Export : Type) where
  /-- The location without suffix, below the service root. -/
  path : String
  form : FileTree.SourceForm
  /-- A stub stands beside the module. -/
  hasStub : Bool
  exports : List (String × Export)

/-- The source file of a module in the service `service`. -/
def HostModule.file (service : List String) (m : HostModule Export) : List String :=
  m.form.file (service ++ Path.components m.path)

/-- The files of a module in the service `service`. -/
def HostModule.files (service : List String) (m : HostModule Export) : List (List String) :=
  m.file service :: if m.hasStub then [m.form.stub (service ++ Path.components m.path)] else []

/-- The host with some modules in its service. Of two modules in one file the later one counts, and
so does the later one of two exports of one name. -/
def Host.ofModules (service : List String) (modules : List (HostModule Export)) : Host Export where
  tree := ⟨modules.flatMap (HostModule.files service), [service]⟩
  exportsOf file := (modules.reverse.find? fun m => m.file service == file).map fun m =>
    m.exports.reverse.map fun x => (Text.normalized x.1, x.2)

/-- Why an artifact cannot be loaded. -/
inductive LoadError where
  /-- The line of the artifact's file binds a name that no source may bind. -/
  | keptName (file : String) (line : Nat)
  /-- A module stands in the place of the annotations. -/
  | noAnnotations
  /-- No file is at the place where a module is loaded from. -/
  | noFile (file : List String)
  /-- No module of the name is found. -/
  | noModule (name : String)
  /-- A module is looked for inside a single file. -/
  | notPackage (name parent : String)
  | noExport (module exportName : String)
  deriving DecidableEq, Repr

/-- The message of a load error. -/
def LoadError.message : LoadError → String
  | keptName file line =>
    "cannot assign to __debug__ (" ++ file ++ ", line " ++ toString line ++ ")"
  | noAnnotations => "'module' object does not support item assignment"
  | noFile file => "[Errno 2] No such file or directory: " ++ Text.quote ("/".intercalate file)
  | noModule name => "No module named " ++ Text.quote name
  | notPackage name parent =>
    "No module named " ++ Text.quote name ++ "; " ++ Text.quote parent ++ " is not a package"
  | noExport module exportName =>
    "module '" ++ module ++ "' has no attribute '" ++ exportName ++ "'"

/-- What a row takes from a module. -/
inductive Taken (Export : Type) where
  | exported (e : Export)
  /-- A module inside it that has been imported too. -/
  | inner

/-- A row of a loaded artifact. -/
structure LoadedRow (Export : Type) where
  success? : Option (Taken Export)
  failure? : Option (Taken Export)
  label : String

namespace Artifact

/-- The directory below which an artifact finds its modules. An absolute import base leads out of
the service. -/
def moduleRoot (variant : Variant) (service : List String) (folder importBase : String) :
    List String :=
  match variant with
  | .typed => service
  | .plain => Path.walk (Path.walk service folder) importBase

/-- The source file that is loaded for a location. -/
def loadedFile (tree : FileTree) (stem : List String) : List String :=
  if tree.isFile (FileTree.SourceForm.package.file stem) then
    FileTree.SourceForm.package.file stem
  else FileTree.SourceForm.single.file stem

/-- The names of a module and of those that it lies inside, as a typed artifact imports them: from a
statement, or by a text. -/
def importedNames (path : String) : List String :=
  if importable path then (ModulePath.parts path).map Text.normalized else ModulePath.parts path

/-- The dotted name under which a typed artifact imports a module. -/
def importedName (path : String) : String := ".".intercalate (importedNames path)

/-- The path of the module that an artifact loads for a module path. -/
def loadedPath (variant : Variant) (path : String) : String :=
  match variant with
  | .plain => path
  | .typed => importedName path

/-- The name under which an artifact loads a module. -/
def loadedName (variant : Variant) (path : String) : String :=
  match variant with
  | .plain => "_middleware_chain_" ++ ModulePath.bindingName reservedNames path
  | .typed => importedName path

/-- Descends from the root to a module, part by part of its name; `found` are the parts that lie
behind. A single file goes before a folder that is no package, and nothing lies inside it. -/
def descend (tree : FileTree) (root : List String) (found : List String) :
    List String → Except LoadError Unit
  | [] => .ok ()
  | parent :: rest =>
    let names := found ++ [parent]
    let stem := root ++ names
    match tree.sourceForm? stem, rest with
    | some .package, _ => descend tree root names rest
    | some .single, [] => .ok ()
    | some .single, inner :: _ =>
      .error (.notPackage (".".intercalate (names ++ [inner])) (".".intercalate names))
    | none, [] => .error (.noModule (".".intercalate names))
    | none, _ :: _ =>
      if tree.isFolder stem then descend tree root names rest
      else .error (.noModule (".".intercalate names))

/-- The file that the module of a path is loaded from. -/
def moduleFile (tree : FileTree) (root : List String) (variant : Variant) (path : String) :
    Except LoadError (List String) :=
  let file := loadedFile tree (FileTree.stem root path)
  match variant with
  | .plain => if tree.isFile file then .ok file else .error (.noFile file)
  | .typed => (descend tree root [] (ModulePath.components path)).map fun _ => file

/-- The exports of a module. -/
def loadModule (host : Host Export) (root : List String) (variant : Variant) (path : String) :
    Except LoadError (List (String × Export)) :=
  (moduleFile host.tree root variant (loadedPath variant path)).map fun file =>
    (host.exportsOf file).getD []

/-! ## Names that the language keeps -/

/-- The name that no source may bind. -/
def keptName : String := "__debug__"

/-- The name under which a module keeps its annotations. -/
def annotationsName : String := "__annotations__"

/-- The number of lines of an artifact above those that bind its modules. -/
def linesAbove (variant : Variant) (importBase functionName : String) : Nat :=
  (header variant functionName ++ ChainSource.lines ++ sectionHead "Handler modules" ++
    moduleLines variant importBase []).length

/-- The error of an artifact that binds the name that no source may bind. -/
def keptNameError? (variant : Variant) (importBase : String) (p : Pipeline) : Option LoadError :=
  let file := filenameOf p.functionName variant
  ((boundNames p).findIdx? (· == keptName)).map fun place =>
    .keptName ((Path.components file).getLastD file)
      (linesAbove variant importBase p.functionName + place + 1)

/-- The line that binds a module says of what type it is. -/
def isAnnotated (variant : Variant) (path : String) : Bool :=
  variant == .typed && !importable path

/-! ## Modules and rows -/

/-- Loads modules in order, and says whether one of them is bound in the place of the annotations;
`taken` says so of those before. -/
def loadModules (host : Host Export) (root : List String) (variant : Variant) (taken : Bool) :
    List String → Except LoadError Bool
  | [] => .ok taken
  | path :: rest =>
    match loadModule host root variant path with
    | .error e => .error e
    | .ok _ =>
      let taken := taken || ModulePath.bindingName reservedNames path == annotationsName
      if taken && isAnnotated variant path then .error .noAnnotations
      else loadModules host root variant taken rest

/-- One of the imported modules lies inside the module `path`, under the name `name`. -/
def hasInner (variant : Variant) (imported : List String) (path name : String) : Bool :=
  match variant with
  | .plain => false
  | .typed => imported.any fun q => (importedNames path ++ [name]).isPrefixOf (importedNames q)

/-- Takes what a side of a row refers to. -/
def loadSide (host : Host Export) (root : List String) (variant : Variant)
    (imported : List String) : Option Reference → Except LoadError (Option (Taken Export))
  | none => .ok none
  | some r =>
    let name := Text.normalized r.exportName
    if hasInner variant imported r.modulePath name then .ok (some .inner)
    else
      match loadModule host root variant r.modulePath with
      | .error e => .error e
      | .ok exports =>
        match exports.lookup name with
        | some e => .ok (some (.exported e))
        | none => .error (.noExport (loadedName variant r.modulePath) name)

/-- Loads rows in order. -/
def loadRows (host : Host Export) (root : List String) (variant : Variant)
    (imported : List String) : List Step → Except LoadError (List (LoadedRow Export))
  | [] => .ok []
  | step :: rest =>
    match loadSide host root variant imported step.success? with
    | .error e => .error e
    | .ok success? =>
      match loadSide host root variant imported step.failure? with
      | .error e => .error e
      | .ok failure? =>
        (loadRows host root variant imported rest).map (⟨success?, failure?, step.label⟩ :: ·)

/-- Loads the artifact of a pipeline from the folder `folder` of the service `service`. A typed one
says of what type its table is when it has made the table. -/
def load (host : Host Export) (service : List String) (folder importBase : String)
    (variant : Variant) (p : Pipeline) : Except LoadError (List (LoadedRow Export)) :=
  let root := moduleRoot variant service folder importBase
  match keptNameError? variant importBase p with
  | some e => .error e
  | none =>
    match loadModules host root variant false p.modulePaths with
    | .error e => .error e
    | .ok taken =>
      match loadRows host root variant p.modulePaths p.steps with
      | .error e => .error e
      | .ok rows => if taken && variant == .typed then .error .noAnnotations else .ok rows

end Artifact

end HandlerPipeline
