import GridPolicy.Pattern.Expression
import GridPolicy.Pattern.Unicode.Age
import GridPolicy.Pattern.Unicode.Break
import GridPolicy.Pattern.Unicode.Category
import GridPolicy.Pattern.Unicode.DerivedProperty
import GridPolicy.Pattern.Unicode.Folding
import GridPolicy.Pattern.Unicode.Property
import GridPolicy.Pattern.Unicode.Script
import GridPolicy.Pattern.Unicode.ScriptExtension

/-!
# Classes of characters

What the classes stand for that a pattern names: the named sets of ASCII, the short
classes, and the properties of Unicode. Folding adds to a set all letters that differ
from one of its members in case only.
-/
namespace GridPolicy.Pattern

namespace CharSet

/-- The set with all letters that differ from a member in case only. -/
def folded (s : CharSet) : CharSet :=
  s.union (.ofMembers (Unicode.allFamilies.filter fun family => family.any s.contains).flatten)

/-- The set with the other case of its letters of ASCII. -/
def foldedAscii (s : CharSet) : CharSet :=
  let capitals := s.intersection (.range 65 90)
  let small := s.intersection (.range 97 122)
  .unions [s, ⟨capitals.ranges.map fun r => (r.1 + 32, r.2 + 32)⟩,
    ⟨small.ranges.map fun r => (r.1 - 32, r.2 - 32)⟩]

end CharSet

/-- The members of a named ASCII class. -/
def AsciiClass.members : AsciiClass → CharSet
  | .alnum => .ofText "30-39 41-5A 61-7A"
  | .alpha => .ofText "41-5A 61-7A"
  | .ascii => .ascii
  | .blank => .ofText "9 20"
  | .cntrl => .ofText "0-1F 7F"
  | .digit => .ofText "30-39"
  | .graph => .ofText "21-7E"
  | .lower => .ofText "61-7A"
  | .print => .ofText "20-7E"
  | .punct => .ofText "21-2F 3A-40 5B-60 7B-7E"
  | .space => .ofText "9-D 20"
  | .upper => .ofText "41-5A"
  | .word => .ofText "30-39 41-5A 5F 61-7A"
  | .xdigit => .ofText "30-39 41-46 61-66"

/-- The characters of words: letters, marks, decimal digits, connectors and the
two that join. -/
def wordClass : CharSet :=
  .unions [Unicode.alphabetic, Unicode.mark, Unicode.decimalNumber, Unicode.connectorPunctuation,
    Unicode.joinControl]

/-- The members of a short class among all characters. -/
def ShortClass.members : ShortClass → CharSet
  | .digit => Unicode.decimalNumber
  | .space => Unicode.whiteSpace
  | .word => wordClass

/-- The members of a short class in ASCII. -/
def ShortClass.asciiMembers : ShortClass → CharSet
  | .digit => AsciiClass.digit.members
  | .space => AsciiClass.space.members
  | .word => AsciiClass.word.members

/-- The form of a name that decides: letters in lower case, without blanks,
hyphens and low lines, and without `is` in front. `isc` stands for the name that
it abbreviates, so that it is not taken for a category. -/
def normalName (name : String) : String :=
  let kept (cs : List Char) : List Char :=
    (cs.filter fun c => c.toNat < 128 && c != ' ' && c != '_' && c != '-').map Char.toLower
  match name.toList with
  | i :: s :: r =>
    if (i == 'i' || i == 'I') && (s == 's' || s == 'S') then
      if kept r == ['c'] then "isc" else String.ofList (kept r)
    else String.ofList (kept (i :: s :: r))
  | cs => String.ofList (kept cs)

def namedSet? (sets : List (List String × CharSet)) (name : String) : Option CharSet :=
  (sets.find? fun entry => entry.1.contains name).map (·.2)

/-- A general category, a group of them, or one of the three sets that are named
like categories. -/
def category? : String → Option CharSet
  | "any" => some (.range 0 CharSet.greatest)
  | "assigned" => some Unicode.assigned
  | "ascii" => some .ascii
  | name => namedSet? Unicode.categories name

def property? (name : String) : Option CharSet :=
  (namedSet? Unicode.properties name).or (namedSet? Unicode.derivedProperties name)

/-- All code points that are used with other scripts than their own. -/
def shared : CharSet := .ofRanges (Unicode.sharedRanges.flatMap fun s => s.members.ranges.toList)

/-- The code points that are used with a script: those listed for it, and of its
own code points those that are not listed at all. -/
def scriptExtension? (name : String) : Option CharSet :=
  (Unicode.scripts.find? fun entry => entry.1.contains name).map fun entry =>
    let listed := Unicode.sharedRanges.filter fun s => entry.1.any s.isUsedWith
    .unions (entry.2.difference shared :: listed.map Unicode.SharedRange.members)

/-- The members of a property class, if its name is known. A lone name is that of
a property, else of a category, else of a script. -/
def Query.members? : Query → Option CharSet
  | .named name =>
    let name := normalName name
    let property :=
      if name == "cf" || name == "sc" || name == "lc" then none
      else property? name
    property.or ((category? name).or (namedSet? Unicode.scripts name))
  | .valued name value =>
    let value := normalName value
    match normalName name with
    | "gc" | "generalcategory" => category? value
    | "sc" | "script" => namedSet? Unicode.scripts value
    | "scx" | "scriptextensions" => scriptExtension? value
    | "age" => Unicode.age? value
    | "gcb" | "graphemeclusterbreak" => namedSet? Unicode.Grapheme.values value
    | "wb" | "wordbreak" => namedSet? Unicode.Word.values value
    | "sb" | "sentencebreak" => namedSet? Unicode.Sentence.values value
    | _ => none

end GridPolicy.Pattern
