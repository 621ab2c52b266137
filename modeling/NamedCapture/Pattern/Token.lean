/-
NamedCapture/Pattern/Token.lean

The pieces of a pattern.  A pattern is cut into tokens without loss: the texts
of the tokens, put together, are the source.  The native pattern is put
together from the same tokens, each written for an engine that numbers its
groups and knows no names.
-/
import NamedCapture.Text.Bytes

namespace NamedCapture

/-- What follows the `(` of a group, and any blanks and comments after it. -/
inductive Opener where
  /-- Nothing: the group captures. -/
  | capturing
  /-- `?<name>`, or `?P<name>` if `long`: the group captures under a name. -/
  | named (long : Bool) (name : List Char)
  /-- `?flags:`, a group that does not capture and sets flags for its body. -/
  | flagged (flags : List Char)
  /-- `?flags)`, no group at all: sets flags for the rest of the enclosing body. -/
  | directive (flags : List Char)
  /-- `?` and something that only the engine understands. -/
  | other
deriving DecidableEq

namespace Opener

def text : Opener → List Char
  | capturing => []
  | named long name => (if long then ['?', 'P', '<'] else ['?', '<']) ++ name ++ ['>']
  | flagged flags => '?' :: flags ++ [':']
  | directive flags => '?' :: flags ++ [')']
  | other => ['?']

end Opener

/-- A piece of a pattern. -/
inductive Token where
  /-- A character that stands for itself as far as groups are concerned. -/
  | plain (c : Char)
  /-- A backslash and the character after it, if there is one. -/
  | escape (c : Option Char)
  /-- A `#` comment: the text after the `#`, with the newline that ends it. -/
  | comment (body : List Char)
  /-- A whole character class: the text after the first `[`, with the last `]`. -/
  | charClass (body : List Char)
  /-- A `(`, the blanks and comments after it, and what they lead to. -/
  | opening (gap : List Char) (opener : Opener)
  /-- A `)` that closes a group. -/
  | closing
deriving DecidableEq

namespace Token

/-- The token as it is written in the source. -/
def text : Token → List Char
  | plain c => [c]
  | escape c => '\\' :: c.toList
  | comment body => '#' :: body
  | charClass body => '[' :: body
  | opening gap opener => '(' :: gap ++ opener.text
  | closing => [')']

/-- The token as it is written for the engine: a named group loses its name. -/
def native : Token → List Char
  | opening _ (.named _ _) => ['(']
  | t => t.text

/-- Whether the token opens a group with a number. -/
def captures : Token → Bool
  | opening _ .capturing | opening _ (.named _ _) => true
  | _ => false

/-- The name that the token declares. -/
def name? : Token → Option (List Char)
  | opening _ (.named _ name) => some name
  | _ => none

end Token

end NamedCapture
