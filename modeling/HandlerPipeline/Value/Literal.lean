import HandlerPipeline.Value
import HandlerPipeline.Decimal.Integer
import HandlerPipeline.Decimal.Shortest
import HandlerPipeline.Text.Quoted

/-!
# Literals of values

The literal of a value is the text that generated source would write for it. Messages show values
that have no JSON text in this form. The members of a value are written in their order, and the
first of them that cannot be written is the one that raises.
-/

namespace HandlerPipeline

/-- What is raised where an integer has too many digits to be written. -/
def Raised.longInteger : Raised := ⟨"ValueError", Integer.unwrittenMessage⟩

namespace Value

/-- Literals write doubles positionally between 10⁻⁴ and 10¹⁶. -/
def floatFormat : Decimal.Format := ⟨"inf", "nan", -4, 15⟩

/-- The comma and blank between the members of a literal. -/
def separator : String := ", "

/-- The literal of an integer. -/
def intLiteral (n : Int) : Except Raised String :=
  match Integer.text? n with
  | some digits => .ok digits
  | none => .error .longInteger

mutual
/-- The literal of a value. -/
def literal : Value → Except Raised String
  | .null => .ok "None"
  | .bool b => .ok (if b then "True" else "False")
  | .int n => intLiteral n
  | .float x => .ok (floatFormat.text x)
  | .text s => .ok (Text.quote s)
  | .list items => (literals items).map fun ts => "[" ++ separator.intercalate ts ++ "]"
  | .map entries =>
    (entryLiterals entries).map fun ts => "\x7b" ++ separator.intercalate ts ++ "\x7d"
  | .bytes data => .ok (Text.quoteBytes data)
  | .tuple [item] => (literal item).map fun t => "(" ++ t ++ ",)"
  | .tuple items => (literals items).map fun ts => "(" ++ separator.intercalate ts ++ ")"
  | .set [] => .ok "set()"
  | .set items => (literals items).map fun ts => "\x7b" ++ separator.intercalate ts ++ "\x7d"
  | .view entries =>
    (entryLiterals entries).map fun ts =>
      "mappingproxy(\x7b" ++ separator.intercalate ts ++ "\x7d)"
  | .cycle first => (literal first).map fun t => "[" ++ t ++ ", [...]]"
  | .object _ conduct _ => conduct.literal

/-- The literals of the members of a list. -/
def literals : List Value → Except Raised (List String)
  | [] => .ok []
  | v :: rest =>
    match literal v with
    | .error x => .error x
    | .ok t => (literals rest).map (t :: ·)

/-- The literals of the entries of a map. -/
def entryLiterals : List (Value × Value) → Except Raised (List String)
  | [] => .ok []
  | (k, v) :: rest =>
    match literal k with
    | .error x => .error x
    | .ok key =>
      match literal v with
      | .error x => .error x
      | .ok t => (entryLiterals rest).map ((key ++ ": " ++ t) :: ·)
end

/-- The text that shows a value inside a message: a text as it is, anything else as its literal. -/
def display : Value → Except Raised String
  | .text s => .ok s
  | v => v.literal

end Value

end HandlerPipeline
