import HandlerPipeline.Value.Literal
import HandlerPipeline.Text.JsonString

/-!
# JSON texts of values

The JSON text of a value, where it has one: byte strings, sets, views and cyclic lists have none,
and neither has a map with a tuple or a byte string among its keys, or an integer with too many
digits. Tuples are written as lists, and keys that are numbers, truth values or null as the strings
of their texts. The three doubles that JSON lacks are written by their usual names.

A value that the writer refuses is echoed by its literal. An exception of an object's own is no such
refusal, and nothing is echoed then.
-/

namespace HandlerPipeline.Value

/-- JSON texts write doubles like literals, but spell out infinity and capitalise. -/
def jsonFloatFormat : Decimal.Format := ⟨"Infinity", "NaN", -4, 15⟩

/-- The JSON text of an integer. -/
def intJson (n : Int) : Except NoJson String :=
  match Integer.text? n with
  | some digits => .ok digits
  | none => .error .refused

/-- The text that a key is written by, before quoting. -/
def jsonKey : Value → Except NoJson String
  | .null => .ok "null"
  | .bool b => .ok (if b then "true" else "false")
  | .int n => intJson n
  | .float x => .ok (jsonFloatFormat.text x)
  | .text s => .ok s
  | .object _ conduct _ => conduct.jsonKey
  | _ => .error .refused

mutual
/-- The JSON text of a value. -/
def json : Value → Except NoJson String
  | .null => .ok "null"
  | .bool b => .ok (if b then "true" else "false")
  | .int n => intJson n
  | .float x => .ok (jsonFloatFormat.text x)
  | .text s => .ok (Text.jsonString s)
  | .list items => (jsons items).map fun ts => "[" ++ separator.intercalate ts ++ "]"
  | .tuple items => (jsons items).map fun ts => "[" ++ separator.intercalate ts ++ "]"
  | .map entries =>
    (entryJsons entries).map fun ts => "\x7b" ++ separator.intercalate ts ++ "\x7d"
  | .bytes _ | .set _ | .view _ => .error .refused
  -- The list is met again only behind its first member.
  | .cycle first =>
    match json first with
    | .error e => .error e
    | .ok _ => .error .refused
  | .object _ conduct _ => conduct.json

/-- The JSON texts of the members of a list. -/
def jsons : List Value → Except NoJson (List String)
  | [] => .ok []
  | v :: rest =>
    match json v with
    | .error e => .error e
    | .ok t => (jsons rest).map (t :: ·)

/-- The JSON texts of the entries of a map. -/
def entryJsons : List (Value × Value) → Except NoJson (List String)
  | [] => .ok []
  | (k, v) :: rest =>
    match jsonKey k with
    | .error e => .error e
    | .ok key =>
      match json v with
      | .error e => .error e
      | .ok t => (entryJsons rest).map ((Text.jsonString key ++ ": " ++ t) :: ·)
end

/-- The text that echoes a value in a message: its JSON text, or else its literal. -/
def echo (v : Value) : Except Raised String :=
  match v.json with
  | .ok shown => .ok shown
  | .error .refused => v.literal
  | .error (.raised x) => .error x

end HandlerPipeline.Value
