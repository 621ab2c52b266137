/-
NamedCapture/Regex/Property.lean

Classes of characters by the names of their properties.

Names are compared without regard to case, blanks, hyphens and underscores, and
a leading `is` does not count.  A lone name is looked up among the properties,
then among the general categories, then among the scripts; the names `cf`, `sc`
and `lc` are always those of categories.
-/
import NamedCapture.Regex.Syntax
import NamedCapture.Unicode.Age
import NamedCapture.Unicode.BinaryProperty
import NamedCapture.Unicode.Blank
import NamedCapture.Unicode.Category
import NamedCapture.Unicode.Script
import NamedCapture.Unicode.Segmentation

namespace NamedCapture.Regex

namespace PropertyName

/-- A text in lower case, without the characters that do not count. -/
def letters (text : List Char) : List Char :=
  (text.filter fun c => c.toNat < 0x80 && c ≠ ' ' && c ≠ '_' && c ≠ '-').map Char.toLower

/-- A name without the differences that do not count. -/
def normalize (name : List Char) : List Char :=
  if (name.take 2).map Char.toLower = ['i', 's'] then
    if letters (name.drop 2) = ['c'] then ['i', 's', 'c'] else letters (name.drop 2)
  else letters name

/-- Whether one of the names is the given one, which is normalized. -/
def isAmong (name : List Char) (names : List String) : Bool :=
  names.any fun s => normalize s.toList = name

/-- The entry of a table with the given name. -/
def find? {α : Type} (name : List Char) (tables : List (List String × α)) : Option α :=
  (tables.find? fun t => isAmong name t.1).map Prod.snd

end PropertyName

namespace Property

open PropertyName

/-! ### By name -/

def binary? (name : List Char) : Option CharSet :=
  (find? name BinaryProperty.tables).map .ofTable

/-- A general category, or one of three sets that are asked for like one. -/
def category? (name : List Char) : Option CharSet :=
  if name = "any".toList then some .all
  else if name = "ascii".toList then some (.between '\x00' '\x7f')
  else if name = "assigned".toList then some (Category.members "Cn").complement
  else
    ((find? name Category.groupings).map Category.membersOf).or
      ((find? name Category.tables).map .ofTable)

def script? (name : List Char) : Option CharSet :=
  (Script.all.find? fun s => isAmong name s.names).map Script.characters

def extension? (name : List Char) : Option CharSet :=
  (Script.all.find? fun s => isAmong name s.names).map Script.extension

/-- Everything that was assigned in a version or before it. -/
def age? (name : List Char) : Option CharSet :=
  if Age.tables.any fun t => isAmong name t.1 then
    let older := Age.tables.takeWhile fun t => !isAmong name t.1
    some (.unions ((older.map fun t => .ofTable t.2) ++
      (find? name Age.tables).toList.map .ofTable))
  else none

def segmentation? (tables : List (List String × String)) (name : List Char) : Option CharSet :=
  (find? name tables).map .ofTable

/-- The properties whose values can be asked for, each with the classes of its values. -/
def valued : List (List String × (List Char → Option CharSet)) := [
  (["General_Category", "gc", "Category"], category?),
  (["Script", "sc"], script?),
  (["Script_Extensions", "scx"], extension?),
  (["Age"], age?),
  (["Grapheme_Cluster_Break", "GCB"], segmentation? Segmentation.graphemeTables),
  (["Word_Break", "WB"], segmentation? Segmentation.wordTables),
  (["Sentence_Break", "SB"], segmentation? Segmentation.sentenceTables)]

/-- The class that a lone name stands for. -/
def byName? (name : List Char) : Option CharSet :=
  let name := normalize name
  if name ∈ ["cf".toList, "sc".toList, "lc".toList] then category? name
  else ((binary? name).or (category? name)).or (script? name)

/-- The class that a query asks for, if there is one. -/
def resolve? : PropertyQuery → Option CharSet
  | .named name => byName? name
  | .valued name value => do
    let classes ← find? (normalize name) valued
    classes (normalize value)

end Property

/-! ### Classes with an escape or a name of their own -/

/-- Decimal digits of every script. -/
def digitChars : CharSet := Category.members "Nd"

/-- The characters that words are made of. -/
def wordChars : CharSet :=
  .unions [BinaryProperty.members "Alphabetic", Category.membersOf ["Mn", "Mc", "Me", "Nd", "Pc"],
    BinaryProperty.members "Join_Control"]

/-- The ASCII characters that words are made of. -/
def asciiWordChars : CharSet := ⟨[⟨0x30, 0x39⟩, ⟨0x41, 0x5A⟩, ⟨0x5F, 0x5F⟩, ⟨0x61, 0x7A⟩]⟩

namespace Shorthand

def members : Shorthand → CharSet
  | digit => digitChars
  | space => .blank
  | word => wordChars

def asciiMembers : Shorthand → CharSet
  | digit => .between '0' '9'
  | space => ⟨[⟨0x9, 0xD⟩, ⟨0x20, 0x20⟩]⟩
  | word => asciiWordChars

end Shorthand

namespace AsciiClass

def names : List (String × AsciiClass) := [
  ("alnum", alnum), ("alpha", alpha), ("ascii", ascii), ("blank", blank), ("cntrl", cntrl),
  ("digit", digit), ("graph", graph), ("lower", lower), ("print", print), ("punct", punct),
  ("space", space), ("upper", upper), ("word", word), ("xdigit", xdigit)]

def members : AsciiClass → CharSet
  | alnum => ⟨[⟨0x30, 0x39⟩, ⟨0x41, 0x5A⟩, ⟨0x61, 0x7A⟩]⟩
  | alpha => ⟨[⟨0x41, 0x5A⟩, ⟨0x61, 0x7A⟩]⟩
  | ascii => ⟨[⟨0x0, 0x7F⟩]⟩
  | blank => ⟨[⟨0x9, 0x9⟩, ⟨0x20, 0x20⟩]⟩
  | cntrl => ⟨[⟨0x0, 0x1F⟩, ⟨0x7F, 0x7F⟩]⟩
  | digit => ⟨[⟨0x30, 0x39⟩]⟩
  | graph => ⟨[⟨0x21, 0x7E⟩]⟩
  | lower => ⟨[⟨0x61, 0x7A⟩]⟩
  | print => ⟨[⟨0x20, 0x7E⟩]⟩
  | punct => ⟨[⟨0x21, 0x2F⟩, ⟨0x3A, 0x40⟩, ⟨0x5B, 0x60⟩, ⟨0x7B, 0x7E⟩]⟩
  | space => ⟨[⟨0x9, 0xD⟩, ⟨0x20, 0x20⟩]⟩
  | upper => ⟨[⟨0x41, 0x5A⟩]⟩
  | word => asciiWordChars
  | xdigit => ⟨[⟨0x30, 0x39⟩, ⟨0x41, 0x46⟩, ⟨0x61, 0x66⟩]⟩

end AsciiClass

end NamedCapture.Regex
