import HandlerPipeline.Chain.Error
import HandlerPipeline.Value

/-!
# Host contexts

A host gives every invocation a context. The chain puts two entries into it for its handlers: the
function that stops the chain, and what the handler before gave. A host may give no context; then
the handlers see a fresh one. A context that takes no entries makes the invocation fail.
-/

namespace HandlerPipeline.Chain

/-- What stands in a context: a plain value, an error as a value, or the function that stops the
chain of one control. -/
inductive Datum where
  | value (v : Value)
  | error (e : Error)
  | stop (control : Nat)
  deriving Inhabited

namespace Datum

/-- Nothing. -/
def null : Datum := .value .null

/-- The name of a datum's type. -/
def typeName : Datum → String
  | value v => v.typeName
  | error e => e.kind.name
  | stop _ => "method"

end Datum

/-- How the entries of a context are reached. -/
inductive Shape where
  | attributes
  | items
  deriving DecidableEq, Repr

/-- A context that takes entries. -/
structure Record where
  shape : Shape
  entries : List (String × Datum)

namespace Record

/-- The record that stands for a missing context. -/
def fresh : Record := ⟨.attributes, []⟩

/-- The entry of a name; what is not there reads as nothing. -/
def get (r : Record) (name : String) : Datum := (r.entries.lookup name).getD .null

/-- The entries with one of them set. -/
def setEntry (name : String) (d : Datum) : List (String × Datum) → List (String × Datum)
  | [] => [(name, d)]
  | e :: rest => if e.1 = name then (name, d) :: rest else e :: setEntry name d rest

/-- Sets an attribute of an object. -/
def setAttribute (name : String) (d : Datum) (r : Record) : Record :=
  { r with entries := setEntry name d r.entries }

/-- Stores an item in a map. -/
def setItem (name : String) (d : Datum) (r : Record) : Record :=
  { r with entries := setEntry name d r.entries }

/-- Sets the entry of a name, in the way in which the entries are reached. -/
def set (name : String) (d : Datum) (r : Record) : Record :=
  match r.shape with
  | .items => r.setItem name d
  | .attributes => r.setAttribute name d

/-- Either way, that entry is set and nothing else. -/
theorem set_eq (name : String) (d : Datum) (r : Record) :
    r.set name d = ⟨r.shape, setEntry name d r.entries⟩ := by
  unfold set
  split <;> rfl

end Record

/-- A context as a host gives it. -/
inductive Context where
  | absent
  | record (r : Record)
  /-- An object that takes no entries. -/
  | fixed (typeName : String)

namespace Context

/-- The record that the handlers see. -/
def opened : Context → Except Error Record
  | absent => .ok .fresh
  | record r => .ok r
  | fixed typeName => .error (.noAttribute typeName "end")

/-- The context as the host holds it after an invocation that left the record `r`. -/
def after (r : Record) : Context → Context
  | record _ => record r
  | c => c

end Context

end HandlerPipeline.Chain
