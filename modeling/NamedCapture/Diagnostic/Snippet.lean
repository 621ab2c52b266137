/-
NamedCapture/Diagnostic/Snippet.lean

A stretch of source with a mark under it.

    error: message                  error: message
      |                               |
    2 | some text                   1 |   some
      |   ^^ message                  |  _____^
                                    2 | | text
                                      | |___^ message

A span within a line is underlined (left).  A span over several lines is drawn
as a bar from its first to its last character (right); if nothing but blanks
stands before it in its first line, the bar starts in that line with a `/`.
-/
import NamedCapture.Diagnostic.Glyph
import NamedCapture.Diagnostic.Styled
import NamedCapture.Text.Line
import NamedCapture.Text.Span
import NamedCapture.Unicode.Blank

namespace NamedCapture.Snippet

def normal (cs : List Char) : Run := ⟨.normal, cs⟩

def blanks (n : Nat) : Run := normal (List.replicate n ' ')

def newline : Run := normal ['\n']

/-- The bar that sets the source off. -/
def bar : Run := ⟨.frame, ['|']⟩

/-- The margin of a line that is no source line, for line numbers of `w` digits. -/
def margin (w : Nat) : Styled := [blanks (w + 1), bar]

/-- The margin of a source line. -/
def numberedMargin (w : Nat) (l : Line) : Styled :=
  let digits := Nat.toDigits 10 l.number
  [⟨.frame, digits⟩, blanks (w + 1 - digits.length), bar]

/-- Text after a margin; a line without text ends at its margin. -/
def afterBlank (n : Nat) (cs : List Char) : Styled :=
  if cs.isEmpty then [] else [blanks n, normal (Glyph.shownText cs)]

/-- The mark at the end of a span, with what is to be said about it. -/
def label (mark message : List Char) : Styled := [⟨.mark, mark⟩, blanks 1, ⟨.mark, message⟩]

/-- A line with the span from column `start` to column `stop` underlined. -/
def underlined (w : Nat) (l : Line) (start stop : Nat) (message : List Char) : Styled :=
  numberedMargin w l ++ afterBlank 1 l.text ++ [newline] ++
    margin w ++ [blanks (start + 1)] ++ label (List.replicate (max 1 (stop - start)) '^') message

/-- The first line of a span that goes on, from column `start`. -/
def barStart (w : Nat) (l : Line) (start : Nat) (before : List Char) : Styled :=
  if before.all isBlank then
    numberedMargin w l ++ [blanks 1, ⟨.mark, ['/']⟩] ++ afterBlank 1 l.text ++ [newline]
  else
    numberedMargin w l ++ afterBlank 3 l.text ++ [newline] ++
      margin w ++ [blanks 1, ⟨.mark, ' ' :: List.replicate (start + 1) '_' ++ ['^']⟩, newline]

/-- A later line of a span. -/
def barLine (w : Nat) (l : Line) : Styled :=
  numberedMargin w l ++ [blanks 1, ⟨.mark, ['|']⟩] ++ afterBlank 1 l.text ++ [newline]

/-- The end of a span just before column `stop` of its last line. -/
def barEnd (w : Nat) (stop : Nat) (message : List Char) : Styled :=
  margin w ++ [blanks 1] ++ label ('|' :: List.replicate (max 1 stop) '_' ++ ['^']) message

/-- Where the source comes from, and where in it the span begins. -/
def location (w : Nat) (path : List Char) (l : Line) (offset : Nat) : Styled :=
  [blanks w, ⟨.frame, "--> ".toList⟩,
    normal (path ++ ':' :: Nat.toDigits 10 l.number ++ ':' :: Nat.toDigits 10 (l.column offset)),
    newline]

/-- An error message with the stretch of `source` that it is about. -/
def report (message : List Char) (path : Option (List Char)) (source : List Char) (span : Span) :
    Styled :=
  let lines := Line.all source
  let first := Line.containing lines span.start
  let last := if span.start = span.stop then first else Line.containing lines span.stop
  let w := (Nat.toDigits 10 (max first.number last.number)).length
  let before := first.before span.start
  let start := Glyph.textWidth before
  let stop := Glyph.textWidth (last.before span.stop)
  let title : Styled := [⟨.level, "error".toList⟩, ⟨.title, ':' :: ' ' :: message⟩, newline]
  let place := match path with
    | some path => location w path first span.start
    | none => []
  title ++ place ++ margin w ++ [newline] ++
    if first.number = last.number then underlined w first start stop message
    else
      let inside := lines.filter fun l => first.number < l.number ∧ l.number ≤ last.number
      barStart w first start before ++ inside.flatMap (barLine w) ++ barEnd w stop message

end NamedCapture.Snippet
