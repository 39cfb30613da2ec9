/-!
# Variants

Handler modules are plain or typed, and so are the artifacts that bind them. Variants are ordered
by strictness; an artifact takes the strictest variant among its modules.
-/

namespace HandlerPipeline

/-- The dialect of a module's source, and of an artifact. -/
inductive Variant where
  | plain
  | typed
  deriving DecidableEq, Repr

namespace Variant

/-- The name of a variant. -/
def name : Variant → String
  | plain => "PLAIN"
  | typed => "TYPED"

/-- The variants, weakest first. -/
def all : List Variant := [plain, typed]

/-- The rank of a variant in the order. -/
def strictness : Variant → Nat
  | plain => 0
  | typed => 1

/-- The suffix of an artifact's file. -/
def extension : Variant → String
  | plain | typed => "py"

/-- The name of the layout of an artifact. -/
def layout : Variant → String
  | plain => "plain.py.j2"
  | typed => "typed.py.j2"

/-- The weakest variant. -/
def weakest : Variant := plain

/-- The first variant is at most as strict as the second. -/
def atMost (a b : Variant) : Bool := a.strictness ≤ b.strictness

/-- The stricter of two variants. -/
def max (a b : Variant) : Variant := if a.strictness < b.strictness then b else a

/-- The weaker of two variants. -/
def min (a b : Variant) : Variant := if b.strictness < a.strictness then b else a

/-- The strictest of some variants. -/
def strictest? : List Variant → Option Variant
  | [] => none
  | v :: rest => some (rest.foldl max v)

/-- The weakest of some variants. -/
def weakest? : List Variant → Option Variant
  | [] => none
  | v :: rest => some (rest.foldl min v)

/-- The variants in order, weakest first. -/
def sorted (variants : List Variant) : List Variant := variants.mergeSort atMost

end Variant

end HandlerPipeline
