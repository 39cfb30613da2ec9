import HandlerPipeline.Text.Quoted

/-!
# Errors of handlers

A handler fails with an error of some kind, with or without a message. Ordinary errors travel along
the chain; the others say that somebody wants the whole program to end, and no chain holds them.

An error object is known here by its kind and its message. Where an error is followed from the
handler that raised it, equal errors stand for one and the same object; and a kind stands for its
class together with the classes below it, which are caught and named alike.
-/

namespace HandlerPipeline.Chain

/-- The kinds of errors. -/
inductive ErrorKind where
  | general
  | runtime
  | value
  | key
  | type
  | missingAttribute
  | zeroDivision
  | stopIteration
  | abort
  | systemExit
  | keyboardInterrupt
  | cancelled
  deriving DecidableEq, Repr

namespace ErrorKind

/-- The name of a kind. -/
def name : ErrorKind → String
  | general => "Exception"
  | runtime => "RuntimeError"
  | value => "ValueError"
  | key => "KeyError"
  | type => "TypeError"
  | missingAttribute => "AttributeError"
  | zeroDivision => "ZeroDivisionError"
  | stopIteration => "StopIteration"
  | abort => "Abort"
  | systemExit => "SystemExit"
  | keyboardInterrupt => "KeyboardInterrupt"
  | cancelled => "CancelledError"

/-- Every kind. -/
def all : List ErrorKind :=
  [general, runtime, value, key, type, missingAttribute, zeroDivision, stopIteration, abort,
    systemExit, keyboardInterrupt, cancelled]

/-- Errors of the kind travel along the chain. -/
def isOrdinary : ErrorKind → Bool
  | abort | systemExit | keyboardInterrupt | cancelled => false
  | _ => true

end ErrorKind

/-- An error, with its message if it has one. -/
structure Error where
  kind : ErrorKind
  detail : Option String
  deriving DecidableEq, Repr

namespace Error

/-- The text of an error; a missing key is quoted. -/
def text (e : Error) : String :=
  match e.kind, e.detail with
  | _, none => ""
  | .key, some key => Text.quote key
  | _, some message => message

/-- The error travels along the chain. -/
def isOrdinary (e : Error) : Bool := e.kind.isOrdinary

/-- The error of calling something that is no function. -/
def uncallable (typeName : String) : Error :=
  ⟨.type, some ("'" ++ typeName ++ "' object is not callable")⟩

/-- The error of an object that has no such attribute. -/
def noAttribute (typeName field : String) : Error :=
  ⟨.missingAttribute, some ("'" ++ typeName ++ "' object has no attribute '" ++ field ++ "'")⟩

end Error

end HandlerPipeline.Chain
