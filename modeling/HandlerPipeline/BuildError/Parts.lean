import HandlerPipeline.BuildError

/-!
# Errors made from parts

A host can raise the library's errors itself. It names a family and gives the parts of the error in
order; a part can be any value, and is shown in the message like a text. Errors of a particular
cause have parts of their own, of which the last may be left out where the cause needs no detail;
the other families take whatever they are given.
-/

namespace HandlerPipeline.BuildError

/-- The parts of the errors of a family, and how many of them have to be given. -/
def Family.parts? : Family → Option (List String × Nat)
  | .any | .rejectedSource => none
  | .invalidStep => some (["raw", "reason"], 1)
  | .bindingCollision => some (["binding_name", "first", "second"], 3)
  | .conflictingHandler => some (["function_name", "detail"], 1)
  | .unresolvedModule => some (["module_path"], 1)
  | .unsupportedRuntime => some (["runtime"], 1)
  | .unknownFunction => some (["function_name"], 1)

/-- Why parts make no error of a family. -/
inductive PartsError where
  | missing (family : Family) (names : List String)
  | surplus (family : Family) (least most given : Nat)
  /-- A part raises an exception when the message is written. -/
  | raised (x : Raised)
  deriving DecidableEq, Repr

/-- Quoted names in a row, with a word before the last. -/
def enumeration (names : List String) : String :=
  match names.map fun n => "'" ++ n ++ "'" with
  | [] => ""
  | [n] => n
  | [m, n] => m ++ " and " ++ n
  | many => ", ".intercalate many.dropLast ++ ", and " ++ many.getLastD ""

/-- The message of a refusal. The error itself counts as one of the arguments. -/
def PartsError.message : PartsError → String
  | missing family names =>
    family.name ++ ".__init__() missing " ++ toString names.length ++
      " required positional argument" ++ (if names.length = 1 then "" else "s") ++ ": " ++
      enumeration names
  | surplus family least most given =>
    let range :=
      if least = most then toString (most + 1)
      else "from " ++ toString (least + 1) ++ " to " ++ toString (most + 1)
    family.name ++ ".__init__() takes " ++ range ++ " positional arguments but " ++
      toString (given + 1) ++ " were given"
  | raised x => x.message

/-- An error that was made from parts: its message, and the parts that it keeps, by name. An error
of no particular cause shows its parts when it is asked for its message, and not before. -/
structure Made where
  family : Family
  message : Except Raised String
  kept : List (String × Value)

/-- The text of a detail; one that is not given says nothing. -/
def detailText (detail : Value) : Except Raised String :=
  match detail.isGiven with
  | .error x => .error x
  | .ok given => if given then detail.display else .ok ""

/-- The message of an error of no particular cause. -/
def plainMessage : List Value → Except Raised String
  | [] => .ok ""
  | [v] => v.display
  | parts => (Value.tuple parts).literal

/-- The message about a raw step, which is echoed before the reason is looked at. -/
def stepMessage (raw reason : Value) : Except Raised String := do
  let echo ← raw.echo
  let reason ← detailText reason
  return invalidMessage echo reason

/-- The reason of a collision. -/
def collisionText (name first second : Value) : Except Raised String := do
  let first ← first.literal
  let second ← second.literal
  let name ← name.literal
  return collisionReason name first second

/-- The message of a conflict. -/
def conflictMessage (function detail : Value) : Except Raised String := do
  let function ← function.display
  let detail ← detailText detail
  return (conflictingHandler function detail).message

/-- The error of a family whose parts have been counted; a part that is left out is empty. -/
def made (family : Family) (parts : List Value) : Except Raised Made :=
  let part (i : Nat) : Value := parts[i]?.getD (.text "")
  let first := part 0
  match family with
  | .any | .rejectedSource => .ok ⟨family, plainMessage parts, []⟩
  | .invalidStep => do
    let message ← stepMessage first (part 1)
    return ⟨family, .ok message, [("reason", part 1)]⟩
  | .bindingCollision => do
    let reason ← collisionText first (part 1) (part 2)
    let paths := Value.list [part 1, part 2]
    let message ← stepMessage paths (.text reason)
    return ⟨family, .ok message,
      [("reason", .text reason), ("binding_name", first), ("module_paths", paths)]⟩
  | .conflictingHandler => do
    let message ← conflictMessage first (part 1)
    return ⟨family, .ok message, [("function_name", first)]⟩
  | .unresolvedModule => do
    let path ← first.display
    return ⟨family, .ok (unresolvedModule path).message, [("module_path", first)]⟩
  | .unsupportedRuntime => do
    let runtime ← first.display
    return ⟨family, .ok (unsupportedRuntime runtime).message, [("runtime", first)]⟩
  | .unknownFunction => do
    let function ← first.display
    return ⟨family, .ok (unknownFunction function).message, [("function_name", first)]⟩

/-- The error of a family with some parts. -/
def ofParts (family : Family) (parts : List Value) : Except PartsError Made :=
  match family.parts? with
  | none => (made family parts).mapError .raised
  | some (names, least) =>
    if parts.length < least then
      .error (.missing family ((names.take least).drop parts.length))
    else if names.length < parts.length then
      .error (.surplus family least names.length parts.length)
    else (made family parts).mapError .raised

example : (PartsError.missing .bindingCollision ["first", "second"]).message =
    "BindingCollisionError.__init__() missing 2 required positional arguments: " ++
      "'first' and 'second'" := by decide +kernel

end HandlerPipeline.BuildError
