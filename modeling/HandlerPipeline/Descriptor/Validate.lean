import HandlerPipeline.Descriptor
import HandlerPipeline.Descriptor.Folder

/-!
# Reading descriptors

A section of a descriptor is read field by field. Every field is examined, whatever is wrong with
the others, so that all issues are reported together: those of the declared fields in the order of
their declaration, then the keys that do not belong, in the order in which they were given. An
issue is found by the keys that lead to it.

Three fields of the settings have a second spelling. Where both are given, the preferred one
counts, and the other does not belong.
-/

namespace HandlerPipeline

/-- What a descriptor says wrongly. -/
inductive Defect where
  | missing
  | notText
  | notList
  | notModel (model : String)
  | forbidden
  | notMergePolicy
  /-- Neither a truth value nor anything that could be written for one. -/
  | notTruth
  /-- A text or a number that stands for no truth value. -/
  | unreadableTruth
  | unimportableFolder (folder segment : String)
  deriving DecidableEq, Repr

/-- The message of a defect. -/
def Defect.message : Defect → String
  | missing => "Field required"
  | notText => "Input should be a valid string"
  | notList => "Input should be a valid list"
  | notModel model => "Input should be a valid dictionary or instance of " ++ model
  | forbidden => "Extra inputs are not permitted"
  | notMergePolicy => "Input should be 'error', 'nest' or 'override'"
  | notTruth => "Input should be a valid boolean"
  | unreadableTruth => "Input should be a valid boolean, unable to interpret input"
  | unimportableFolder folder segment => "Value error, " ++ Folder.complaint folder segment

/-- A defect and the keys that lead to it. -/
structure Issue where
  path : List String
  defect : Defect
  deriving DecidableEq, Repr

/-! ## Reading with all issues -/

/-- The outcome of reading a part of a descriptor: what it says, or all its issues. -/
inductive Reading (α : Type) where
  | valid (a : α)
  | invalid (issues : List Issue)

namespace Reading

variable {α β : Type}

/-- A reading that fails with one issue. -/
def refuse (path : List String) (defect : Defect) : Reading α := .invalid [⟨path, defect⟩]

/-- Applies a function to what is read. -/
def map (f : α → β) : Reading α → Reading β
  | valid a => valid (f a)
  | invalid issues => invalid issues

/-- Puts two readings together; the issues of the first come before those of the second. -/
def also : Reading (α → β) → Reading α → Reading β
  | valid f, valid a => valid (f a)
  | valid _, invalid i => invalid i
  | invalid i, valid _ => invalid i
  | invalid i, invalid j => invalid (i ++ j)

/-- Puts a key in front of the path of every issue. -/
def under (key : String) : Reading α → Reading α
  | valid a => valid a
  | invalid issues => invalid (issues.map fun i => ⟨key :: i.path, i.defect⟩)

end Reading

/-! ## Fields -/

namespace Field

/-- A text. -/
def text : Value → Reading String
  | .text s => .valid s
  | _ => .refuse [] .notText

/-- A list of raw steps. -/
def rawSteps : Value → Reading (List Value)
  | .list items => .valid items
  | _ => .refuse [] .notList

/-- The words for true. -/
def trueWords : List String := ["1", "on", "t", "true", "y", "yes"]

/-- The words for false. -/
def falseWords : List String := ["0", "off", "f", "false", "n", "no"]

/-- A truth value: itself, the number 0 or 1, or a word for it in any letter case. -/
def truth : Value → Reading Bool
  | .bool b => .valid b
  | .int n =>
    if n = 0 then .valid false
    else if n = 1 then .valid true
    else if -Int.pow 2 63 ≤ n ∧ n < Int.pow 2 63 then .refuse [] .unreadableTruth
    else .refuse [] .notTruth
  | .float x =>
    if x == 0 then .valid false else if x == 1 then .valid true else .refuse [] .notTruth
  | .text s =>
    if trueWords.contains s.toLower then .valid true
    else if falseWords.contains s.toLower then .valid false
    else .refuse [] .unreadableTruth
  | _ => .refuse [] .notTruth

/-- A merge policy. -/
def mergePolicy : Value → Reading HookMerge
  | .text "error" => .valid .refuse
  | .text "nest" => .valid .nest
  | .text "override" => .valid .override
  | _ => .refuse [] .notMergePolicy

/-- A folder for artifacts. -/
def folder : Value → Reading String
  | .text s =>
    match Folder.read s with
    | .ok f => .valid f
    | .error segment => .refuse [] (.unimportableFolder s segment)
  | _ => .refuse [] .notText

/-- The spelling under which a field is given, preferred spellings first. -/
def given (spellings : List String) (entries : List (Value × Value)) :
    Option (String × Value) :=
  spellings.findSome? fun key => (Value.lookup key entries).map (key, ·)

/-- Reads a field that may be left out. -/
def optional {α : Type} (spellings : List String) (read : Value → Reading α) (default : α)
    (entries : List (Value × Value)) : Reading α :=
  match given spellings entries with
  | some (key, v) => Reading.under key (read v)
  | none => .valid default

/-- Reads a field that has to be given. -/
def required {α : Type} (key : String) (read : Value → Reading α)
    (entries : List (Value × Value)) : Reading α :=
  match Value.lookup key entries with
  | some v => Reading.under key (read v)
  | none => .refuse [key] .missing

/-- The entries whose key is none of `known`. -/
def others (known : List String) (entries : List (Value × Value)) : List (String × Value) :=
  entries.filterMap fun e =>
    match e.1 with
    | .text key => if known.contains key then none else some (key, e.2)
    | _ => none

/-- Refuses every key that belongs to no field. -/
def closed (fields : List (List String)) (entries : List (Value × Value)) : Reading Unit :=
  let known := fields.filterMap fun spellings => (given spellings entries).map (·.1)
  match others known entries with
  | [] => .valid ()
  | extra => .invalid (extra.map fun e => ⟨[e.1], .forbidden⟩)

end Field

/-! ## Sections -/

/-- The name of the hooks of a function, in messages and paths. -/
def Hooks.modelName : String := "FunctionHooks"

/-- Reads the hooks of a function. -/
def Hooks.read (raw : Value) : Reading Hooks :=
  match raw.entries? with
  | none => .refuse [] (.notModel Hooks.modelName)
  | some entries =>
    ((Field.optional ["pre"] Field.rawSteps [] entries).map fun b a (_ : Unit) => Hooks.mk b a)
      |>.also (Field.optional ["pos"] Field.rawSteps [] entries)
      |>.also (Field.closed [["pre"], ["pos"]] entries)

/-- Reads the settings of a service. -/
def Settings.read (raw : Value) : Reading Settings :=
  match raw.entries? with
  | none => .refuse [] (.notModel "MiddlewareSettings")
  | some entries =>
    let initial := Settings.default
    let folder := Field.optional ["folderName", "folder_name"] Field.folder initial.folder entries
    let clean := Field.optional ["cleanFolder", "clean_folder"] Field.truth initial.cleanFolder
      entries
    let before := Field.optional ["pre"] Field.rawSteps initial.before entries
    let after := Field.optional ["pos"] Field.rawSteps initial.after entries
    let runtime := Field.optional ["runtime"] Field.text initial.runtime entries
    let merge := Field.optional ["hookMerge", "hook_merge"] Field.mergePolicy initial.hookMerge
      entries
    let rest := Field.closed
      [["folderName", "folder_name"], ["cleanFolder", "clean_folder"], ["pre"], ["pos"],
        ["runtime"], ["hookMerge", "hook_merge"]] entries
    (folder.map fun f c b a r m (_ : Unit) => Settings.mk f c b a r m)
      |>.also clean |>.also before |>.also after |>.also runtime |>.also merge |>.also rest

namespace Declaration

/-- Reads the handler of a function: null, a reference, or an array of steps. -/
def readHandler : Value → Reading HandlerField
  | .null => .valid .absent
  | .text s => .valid (.single s)
  | .list items => .valid (.steps items)
  | _ => .invalid [⟨["str"], .notText⟩, ⟨["list[any]"], .notList⟩]

/-- Reads the middleware of a function: null, an array of steps, or hooks. -/
def readMiddleware : Value → Reading MiddlewareField
  | .null => .valid .absent
  | .list items => .valid (.steps items)
  | raw =>
    match Hooks.read raw with
    | .valid h => .valid (.hooks h)
    | .invalid issues =>
      .invalid (⟨["list[any]"], .notList⟩ ::
        issues.map fun i => ⟨Hooks.modelName :: i.path, i.defect⟩)

/-- The fields of a declaration that the library reads. -/
def fieldNames : List String := ["name", "handler", "middleware"]

/-- Reads the declaration of a function. Unknown fields belong to others and are kept. -/
def read (raw : Value) : Reading Declaration :=
  match raw.entries? with
  | none => .refuse [] (.notModel "FunctionDeclaration")
  | some entries =>
    ((Field.required "name" Field.text entries).map fun n h m =>
        Declaration.mk n h m (Field.others fieldNames entries))
      |>.also (Field.optional ["handler"] readHandler .absent entries)
      |>.also (Field.optional ["middleware"] readMiddleware .absent entries)

/-- The map that declares the function of a descriptor entry: the entry under its key, which an
entry that gives a name of its own overrules. Anything but a map declares nothing. -/
def ofEntry? (key : Value) (entry : Value) : Option Value :=
  entry.entries?.map fun entries =>
    .map (Value.insertEntries entries [(.text "name", key)])

end Declaration

end HandlerPipeline
