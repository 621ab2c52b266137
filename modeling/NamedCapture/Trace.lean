/-
NamedCapture/Trace.lean

Records of what the library does, for a reader who looks for the reasons of an
answer.  Records never change an answer.
-/

namespace NamedCapture.Trace

/-- How much detail a record gives. -/
inductive Level where
  | debug
  | trace
deriving DecidableEq

namespace Level

def label : Level → String
  | debug => "DEBUG"
  | trace => "TRACE"

end Level

/-- One line of the trace. -/
structure Record where
  level : Level
  text : String
deriving DecidableEq

end NamedCapture.Trace
