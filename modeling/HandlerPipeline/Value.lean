import HandlerPipeline.Decimal.Parts

/-!
# Descriptor values

A service descriptor reaches the library as plain data: the values of JSON, with integers and
floating-point numbers apart, and the values that a descriptor written in code can hold besides:
byte strings, tuples, sets, maps with any keys, read-only views of maps, a list that contains
itself, and objects of any other type. Maps keep the order in which their keys were first given.

Looking at a value may raise an exception that is none of the library's errors. An object of another
type raises what it likes when it is shown, asked whether it counts as given, or asked for a key; it
answers in the same way whenever it is asked. A list or a map that is nested more deeply than the
interpreter follows is such an object too: it counts as given, and showing it raises.
-/

namespace HandlerPipeline

/-- An exception that is none of the library's errors. -/
structure Raised where
  type : String
  message : String
  deriving DecidableEq, Repr

/-- Why a value has no JSON text. -/
inductive NoJson where
  /-- The writer of JSON refuses it. -/
  | refused
  /-- Something else is raised while it is written. -/
  | raised (x : Raised)
  deriving DecidableEq, Repr

/-- What an object of another type answers when it is looked at. -/
structure Conduct where
  literal : Except Raised String
  json : Except NoJson String
  /-- The text that a key of a JSON map has, before it is quoted. -/
  jsonKey : Except NoJson String
  isGiven : Except Raised Bool
  /-- What is raised when the object, as a map, is asked for a key. -/
  refusal? : String → Option Raised

/-- A value of a descriptor. -/
inductive Value where
  | null
  | bool (b : Bool)
  | int (n : Int)
  | float (x : Float)
  | text (s : String)
  | list (items : List Value)
  | map (entries : List (Value × Value))
  | bytes (data : List UInt8)
  | tuple (items : List Value)
  | set (items : List Value)
  /-- A read-only view of a map. -/
  | view (entries : List (Value × Value))
  /-- The list of a value and of that list itself. -/
  | cycle (first : Value)
  /-- An object of any other type: the type's name, what it answers when it is looked at, and its
  entries, if it is a map of a kind of its own. -/
  | object (type : String) (conduct : Conduct) (entries? : Option (List (Value × Value)))
  deriving Inhabited

namespace Value

/-- The number that a value stands for as a key: booleans count as 0 and 1, and a double without a
fraction is that integer. -/
def number? : Value → Option (Int ⊕ Float)
  | .bool b => some (.inl (if b then 1 else 0))
  | .int n => some (.inl n)
  | .float x =>
    match (Decimal.Parts.ofFloat x).integer? with
    | some n => some (.inl n)
    | none => some (.inr x)
  | _ => none

mutual
/-- Two values are the same key of a map: numbers by their value, everything else by shape. -/
def sameKey : Value → Value → Bool
  | .text a, .text b => a == b
  | .null, .null => true
  | .bytes a, .bytes b => a == b
  | .tuple a, .tuple b => sameKeys a b
  | a, b =>
    match a.number?, b.number? with
    | some (.inl m), some (.inl n) => m == n
    | some (.inr x), some (.inr y) => x == y
    | _, _ => false

/-- `sameKey` position by position. -/
def sameKeys : List Value → List Value → Bool
  | [], [] => true
  | a :: as, b :: bs => sameKey a b && sameKeys as bs
  | _, _ => false
end

/-- Adds an entry to a map: a key given again keeps its place and takes the new value. -/
def insertEntry (key value : Value) : List (Value × Value) → List (Value × Value)
  | [] => [(key, value)]
  | e :: rest => if sameKey e.1 key then (e.1, value) :: rest else e :: insertEntry key value rest

/-- The entries of a map with others added to them. -/
def insertEntries (added entries : List (Value × Value)) : List (Value × Value) :=
  added.foldl (fun acc e => insertEntry e.1 e.2 acc) entries

/-- The map of a list of entries. -/
def ofEntries (entries : List (Value × Value)) : Value := .map (insertEntries entries [])

/-- A map with entries added to it; other values stay as they are. -/
def updated (added : List (Value × Value)) : Value → Value
  | .map entries => .map (insertEntries added entries)
  | v => v

/-- The integer that a value stands for as a key. -/
def integerKey? (v : Value) : Option Int :=
  match v.number? with
  | some (.inl n) => some n
  | _ => none

/-- Members with each key once. -/
def distinctKeys (members : List Value) : List Value :=
  members.foldl (fun acc m => if acc.any (sameKey m) then acc else acc ++ [m]) []

/-- The set of a list of members. Integers are kept in ascending order, other members in the order
in which they were given. -/
def ofMembers (members : List Value) : Value :=
  let distinct := distinctKeys members
  if distinct.all (·.integerKey?.isSome) then
    .set (distinct.mergeSort fun a b => a.integerKey?.getD 0 ≤ b.integerKey?.getD 0)
  else .set distinct

/-- The map of an object with text keys. -/
def ofObject (fields : List (String × Value)) : Value :=
  .map (fields.map fun f => (.text f.1, f.2))

/-- The value under a text key. -/
def lookup (key : String) : List (Value × Value) → Option Value
  | [] => none
  | (.text k, v) :: rest => if k = key then some v else lookup key rest
  | _ :: rest => lookup key rest

/-- The entries of a map, of a view of one, or of an object that is a map of its own kind. -/
def entries? : Value → Option (List (Value × Value))
  | .map entries => some entries
  | .view entries => some entries
  | .object _ _ entries? => entries?
  | _ => none

/-- What a map answers when it is asked for a text key. Nothing else is asked for keys. -/
def get (key : String) : Value → Except Raised (Option Value)
  | .object _ conduct (some entries) =>
    match conduct.refusal? key with
    | some x => .error x
    | none => .ok (lookup key entries)
  | v => .ok ((v.entries?).bind (lookup key))

/-- The value counts as given: neither null nor false, zero or empty. -/
def isGiven : Value → Except Raised Bool
  | .null => .ok false
  | .bool b => .ok b
  | .int n => .ok (n != 0)
  | .float x => .ok (x != 0)
  | .text s => .ok (s != "")
  | .list items => .ok !items.isEmpty
  | .map entries => .ok !entries.isEmpty
  | .bytes data => .ok !data.isEmpty
  | .tuple items => .ok !items.isEmpty
  | .set items => .ok !items.isEmpty
  | .view entries => .ok !entries.isEmpty
  | .cycle _ => .ok true
  | .object _ conduct _ => conduct.isGiven

/-- The name of a value's type, as error messages give it. -/
def typeName : Value → String
  | .null => "NoneType"
  | .bool _ => "bool"
  | .int _ => "int"
  | .float _ => "float"
  | .text _ => "str"
  | .list _ => "list"
  | .map _ => "dict"
  | .bytes _ => "bytes"
  | .tuple _ => "tuple"
  | .set _ => "set"
  | .view _ => "mappingproxy"
  | .cycle _ => "list"
  | .object type _ _ => type

end Value

end HandlerPipeline
