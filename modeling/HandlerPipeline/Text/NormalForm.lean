import HandlerPipeline.Text.CombiningClass
import HandlerPipeline.Text.Compatibility
import HandlerPipeline.Text.Composite

/-!
# The normal form of names

A name can be written in more than one way, and names in source are compared in their normal form:
characters that stand for others are replaced by these, all characters are split into letters and
marks, the marks behind a letter are put in the order of their classes, and then letters and marks
are put together again wherever that makes one character. A text that is no name in source, such as
the content of a literal, is taken as it is.
-/

namespace HandlerPipeline.Text

/-- The letters and marks that a code point stands for. -/
def decomposed (n : Nat) : List Nat := (compatible? n).getD (split n)

/-- Puts a code point in front of others: a mark passes by those of lower classes. -/
def place (n : Nat) : List Nat → List Nat
  | [] => [n]
  | m :: rest =>
    if 0 < combiningClass m ∧ combiningClass m < combiningClass n then m :: place n rest
    else n :: m :: rest

/-- The code points with the marks behind each letter in the order of their classes. -/
def ordered (code : List Nat) : List Nat := code.foldr place []

/-- A mark cannot be put together with its letter where the last mark kept between them has no lower
class. -/
def isBlocked (kept : List Nat) (n : Nat) : Bool :=
  kept.head?.any fun m => combiningClass n ≤ combiningClass m

/-- Puts a letter together with what stands behind it; `kept` are the marks that have stayed marks,
the last one first. -/
def composedFrom (letter : Nat) (kept : List Nat) : List Nat → List Nat
  | [] => letter :: kept.reverse
  | n :: rest =>
    match if isBlocked kept n then none else composite? letter n with
    | some whole => composedFrom whole kept rest
    | none =>
      if combiningClass n = 0 then letter :: (kept.reverse ++ composedFrom n [] rest)
      else composedFrom letter (n :: kept) rest

/-- Puts letters together with their marks. -/
def composed : List Nat → List Nat
  | [] => []
  | n :: rest => if combiningClass n = 0 then composedFrom n [] rest else n :: composed rest

/-- The normal form of code points. -/
def normalCode (code : List Nat) : List Nat := composed (ordered (code.flatMap decomposed))

/-- The normal form of a name. -/
def normalized (name : String) : String :=
  String.ofList ((normalCode (name.toList.map Char.toNat)).map Char.ofNat)

example : composed (ordered [0x65, 0x301, 0x323]) = [0x1eb9, 0x301] := by decide +kernel

end HandlerPipeline.Text
