/-
NamedCapture/Regex/Reader.lean

Readers of the pieces of a regular expression, and their smallest steps.

A reader takes a piece off the front of a text or gives up: the fault itself is
never reported, so it is not kept.  It knows whether the flag `x` is on and
cannot change that; of groups it knows nothing.  While the flag is on, blanks and
comments are gaps; a step that says so also takes the gap after what it reads.
-/
import NamedCapture.Pattern.Scan
import NamedCapture.Regex.Syntax
import NamedCapture.Unicode.Blank

namespace NamedCapture.Regex

/-- A reader: given the flag `x` and a text, it yields what it has read and the
rest of the text. -/
abbrev Lex := ReaderT Bool (StateT (List Char) Option)

namespace Lex

/-- The next character, which is not taken. -/
def peek : Lex (Option Char) := do return (← get).head?

/-- The next character, which is not taken; gives up at the end. -/
def peek! : Lex Char := do
  match ← get with
  | c :: _ => return c
  | [] => failure

/-- Takes one character. -/
def bump : Lex Unit := modify List.tail

/-- Takes a gap. -/
def skipGap : Lex Unit := do
  let verbose ← read
  modify fun cs => (Scan.gapIn verbose cs).2

/-- Takes one character and the gap after it. -/
def bumpGap : Lex Unit := do
  bump
  skipGap

/-- Takes blanks, whether they have a meaning or not. -/
def skipBlanks : Lex Unit := modify (List.dropWhile isBlank)

/-- Takes the given text if it comes next. -/
def eat (text : List Char) : Lex Bool := do
  let cs ← get
  if text.isPrefixOf cs then
    set (cs.drop text.length)
    return true
  else return false

/-- Takes the given character; gives up if another comes next. -/
def expect (c : Char) : Lex Unit := do
  if (← peek!) = c then bump else failure

/-- The characters up to the first that `stop` accepts or to the end, without the
gaps after them, and the rest. -/
def splitUntil (verbose : Bool) (stop : Char → Bool) (cs : List Char) :
    List Char × List Char :=
  match cs with
  | [] => ([], [])
  | c :: cs =>
    if stop c then ([], c :: cs)
    else
      (c :: (splitUntil verbose stop (Scan.gapIn verbose cs).2).1,
        (splitUntil verbose stop (Scan.gapIn verbose cs).2).2)
termination_by cs.length
decreasing_by
  all_goals
    exact Nat.lt_succ_of_le (Scan.length_snd_le_of_append (Scan.gapIn_append verbose cs))

/-- Takes characters, with the gaps after them, up to the first that `stop`
accepts or to the end. -/
def collectUntil (stop : Char → Bool) : Lex (List Char) := do
  let verbose ← read
  modifyGet (splitUntil verbose stop)

/-- The first character of a text, where gaps do not count.  Inside a gap, the
text of a comment counts from its first character that is not blank. -/
def headPast (verbose : Bool) (cs : List Char) : Option Char :=
  if verbose then
    match cs.dropWhile isBlank with
    | '#' :: comment => ((comment.dropWhile isBlank).head?).or cs.head?
    | other => other.head?.or cs.head?
  else cs.head?

/-- The character after the next, where gaps do not count. -/
def peekPast : Lex (Option Char) := do
  return headPast (← read) (← get).tail

/-- A number below 2^32, with blanks around it. -/
def decimal : Lex Nat := do
  skipBlanks
  let digits ← collectUntil fun c => !c.isDigit
  skipBlanks
  let n := digits.foldl (fun n c => 10 * n + (c.toNat - '0'.toNat)) 0
  if digits.isEmpty ∨ 0x100000000 ≤ n then failure else return n

end Lex

end NamedCapture.Regex
