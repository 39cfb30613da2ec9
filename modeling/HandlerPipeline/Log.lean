/-!
# Log lines

What the library tells about its work, apart from its results. A line is said by one part of the
library, has a level and a text.
-/

namespace HandlerPipeline.Log

/-- The part of the library that says a line. -/
inductive Speaker where
  | build
  | resolver
  | emitter
  | chain
  deriving DecidableEq, Repr

/-- The name under which a part of the library logs. -/
def Speaker.name : Speaker → String
  | build => "middleware_chain.build"
  | resolver => "middleware_chain.compiler.resolver"
  | emitter => "middleware_chain.compiler.emitter"
  | chain => "middleware_chain.runtime"

/-- How urgent a line is. -/
inductive Level where
  | debug
  | info
  | warning
  | error
  | critical
  deriving DecidableEq, Repr

namespace Level

/-- The name of a level. -/
def name : Level → String
  | debug => "DEBUG"
  | info => "INFO"
  | warning => "WARNING"
  | error => "ERROR"
  | critical => "CRITICAL"

/-- The number of a level; a sink takes the lines whose number is not below its own. -/
def number : Level → Nat
  | debug => 10
  | info => 20
  | warning => 30
  | error => 40
  | critical => 50

end Level

/-- A log line. -/
structure Line where
  speaker : Speaker
  level : Level
  message : String
  deriving DecidableEq, Repr

end HandlerPipeline.Log
