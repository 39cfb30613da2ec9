import HandlerPipeline.Artifact.ChainSource
import HandlerPipeline.Pipeline
import HandlerPipeline.Variant

/-!
# The source of an artifact

An artifact is a module of source lines: a header, the chain, one line per handler module that binds
it to its name, one row per step, and the entry points. A plain artifact loads its modules from
files below the service root; a typed one imports them.

Text that comes from a descriptor enters the source in four places only: in a quoted literal (the
function's name in the header, the base of the file locations, the parts of a module path, the label
of a row), as a binding name, as the name of an export, and as an import whose parts are all names.
None of these holds a line end, so the lines of an artifact are as many as its layout says.
-/

namespace HandlerPipeline

/-- The text of a step that names its handlers. -/
def Step.label : Step → String
  | .onSuccess r => r.text
  | .onFailure r => "catch " ++ r.text
  | .onBoth success failure => success.text ++ " catch " ++ failure.text

namespace Artifact

/-- The version that an artifact's header gives. -/
def version : String := "0.3.0"

/-- The names that the layouts define beside the chain. -/
def layoutNames : List String :=
  ["STEPS", "SERVICE_ROOT", "load_module", "handler", "async_handler", "importlib", "os", "sys",
    "ModuleType", "Any", "Sequence"]

/-- The names that an artifact defines before it binds its modules; no module is bound to one. -/
def reservedNames : List String :=
  layoutNames ++ ChainSource.definedNames.filter (!layoutNames.contains ·)

/-- The variant as the header names it. -/
def variantWord : Variant → String
  | .plain => "plain"
  | .typed => "typed"

/-- The lines above the chain. -/
def header (variant : Variant) (functionName : String) : List String := [
  "# Middleware pipeline for function " ++ Text.quote functionName ++ ".",
  "# Generated by middleware-chain " ++ version ++ " (" ++ variantWord variant ++
    " variant). Do not edit.",
  ""]

/-- A comment that heads a section. -/
def sectionHead (title : String) : List String := [
  "",
  "# ---------------------------------------------------------------------------",
  "# " ++ title,
  "# ---------------------------------------------------------------------------",
  ""]

/-! ## Handler modules -/

/-- The names to which a pipeline's artifact binds modules. -/
def boundNames (p : Pipeline) : List String :=
  p.modulePaths.map (ModulePath.bindingName reservedNames)

/-- The lines of a plain artifact that find and load a module's file. -/
def loader (importBase : String) : List String := [
  "import importlib.util",
  "import os",
  "import sys",
  "",
  "SERVICE_ROOT = os.path.normpath(",
  "    os.path.join(os.path.dirname(os.path.abspath(__file__)), " ++ Text.quote importBase ++ ")",
  ")",
  "",
  "",
  "def load_module(binding, *parts):",
  "    base = os.path.join(SERVICE_ROOT, *parts)",
  "    if os.path.isfile(os.path.join(base, \"__init__.py\")):",
  "        location, search = os.path.join(base, \"__init__.py\"), [base]",
  "    else:",
  "        location, search = base + \".py\", None",
  "    name = \"_middleware_chain_\" + binding",
  "    spec = importlib.util.spec_from_file_location(",
  "        name, location, submodule_search_locations=search",
  "    )",
  "    if spec is None or spec.loader is None:",
  "        raise ImportError(\"Cannot load handler module from \" + location, path=location)",
  "    module = importlib.util.module_from_spec(spec)",
  "    sys.modules[name] = module",
  "    spec.loader.exec_module(module)",
  "    return module",
  "",
  ""]

/-- The lines of a typed artifact that precede its imports. -/
def importer : List String := [
  "import importlib",
  "from types import ModuleType",
  "from typing import Any, Sequence",
  ""]

/-- The module can be imported by a statement: all its parts are names. -/
def importable (path : String) : Bool := (ModulePath.parts path).all Text.isName

/-- The line of a plain artifact that binds a module. -/
def loadLine (binding : String × String) : String :=
  binding.2 ++ " = load_module(" ++ Text.quote binding.2 ++ ", " ++
    ", ".intercalate ((ModulePath.parts binding.1).map Text.quote) ++ ")"

/-- The line of a typed artifact that binds a module. -/
def importLine (binding : String × String) : String :=
  if importable binding.1 then
    "import " ++ ModulePath.dotted binding.1 ++ " as " ++ binding.2
  else
    binding.2 ++ ": ModuleType = importlib.import_module(" ++
      Text.quote (ModulePath.dotted binding.1) ++ ")"

/-- The lines that bind the modules of an artifact. -/
def moduleLines (variant : Variant) (importBase : String) (bindings : List (String × String)) :
    List String :=
  match variant with
  | .plain => loader importBase ++ bindings.map loadLine
  | .typed => importer ++ bindings.map importLine

/-! ## Steps -/

/-- The expression for a handler: the export of the bound module. -/
def handlerText : Option Reference → String
  | none => "None"
  | some r => ModulePath.bindingName reservedNames r.modulePath ++ "." ++ r.exportName

/-- The row of a step. -/
def row (step : Step) : List String := [
  "    ChainStep(",
  "        then=" ++ handlerText step.success? ++ ",",
  "        catch=" ++ handlerText step.failure? ++ ",",
  "        label=" ++ Text.quote step.label ++ ",",
  "    ),"]

/-- The line that opens the table of steps. -/
def tableHead : Variant → String
  | .plain => "STEPS = ("
  | .typed => "STEPS: Sequence[ChainStep] = ("

/-- The table of steps. -/
def table (variant : Variant) (steps : List Step) : List String :=
  tableHead variant :: steps.flatMap row ++ [")"]

/-- The entry points. -/
def entryLines : Variant → List String
  | .plain => [
    "",
    "",
    "def handler(event, context):",
    "    return run_chain_sync(STEPS, event, context)",
    "",
    "",
    "async def async_handler(event, context):",
    "    return await run_chain(STEPS, event, context)"]
  | .typed => [
    "",
    "",
    "def handler(event: Any, context: Any) -> Any:",
    "    return run_chain_sync(STEPS, event, context)",
    "",
    "",
    "async def async_handler(event: Any, context: Any) -> Any:",
    "    return await run_chain(STEPS, event, context)"]

/-! ## The whole artifact -/

/-- The lines of an artifact. -/
def lines (variant : Variant) (importBase : String) (p : Pipeline)
    (bindings : List (String × String)) : List String :=
  header variant p.functionName ++ ChainSource.lines ++ sectionHead "Handler modules" ++
    moduleLines variant importBase bindings ++ sectionHead "Pipeline" ++ table variant p.steps ++
    entryLines variant

/-- A text of lines, each of them ended. -/
def ofLines (lines : List String) : String := String.join (lines.map (· ++ "\n"))

/-- The source of a pipeline's artifact, unless two of its modules take the same name. -/
def render (variant : Variant) (importBase : String) (p : Pipeline) : Except BuildError String :=
  (p.bindings reservedNames).map fun bindings => ofLines (lines variant importBase p bindings)

end Artifact

end HandlerPipeline
