/-
NamedCapture/Diagnostic/Basic.lean

Syntax errors, shown in the source that they are about.
-/
import NamedCapture.Diagnostic.Snippet
import NamedCapture.Pattern.SyntaxError

namespace NamedCapture.SyntaxError

/-- The error with its source; `path` says where the source comes from.  A span
that reaches past the source is cut off at its end. -/
def report (e : SyntaxError) (source : String) (path : Option String) : Styled :=
  Snippet.report e.message.toList (path.map String.toList) source.toList
    (e.span.clamp (byteLength source.toList))

/-- The text of the report. -/
def render (e : SyntaxError) (source : String) (path : Option String) (color : Bool) : String :=
  (e.report source path).render color

end NamedCapture.SyntaxError
