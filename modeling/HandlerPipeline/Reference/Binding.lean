import HandlerPipeline.Text.Identifier

/-!
# Binding names

Generated source binds every module to a name. The name is the module path with each character
that no ASCII identifier holds replaced by `_`, a leading digit included; where the result is a
reserved word, or a name that the source defines for itself, a `_` is appended.
-/

namespace HandlerPipeline.ModulePath

/-- The characters that a binding name may hold. -/
def isBindingChar (c : Char) : Bool := c.isAlphanum || c == '_'

/-- The path with every character outside the binding alphabet replaced. -/
def sanitized (path : List Char) : List Char :=
  path.map fun c => if isBindingChar c then c else '_'

/-- Replaces a leading digit. -/
def undigited : List Char → List Char
  | [] => []
  | c :: rest => (if c.isDigit then '_' else c) :: rest

/-- The binding name of a module path, apart from the reserved names. -/
def bindingName (reserved : List String) (path : String) : String :=
  let name := String.ofList (undigited (sanitized path.toList))
  if Text.isKeyword name || reserved.contains name then name ++ "_" else name

example : bindingName [] "2fa/my-lib" = "_fa_my_lib" := by decide
example : bindingName ["os"] "os" = "os_" ∧ bindingName [] "class" = "class_" := by decide

end HandlerPipeline.ModulePath
