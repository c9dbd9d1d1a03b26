import GridPolicy.Pattern.Parser
import GridPolicy.Pattern.Resolve
import GridPolicy.Pattern.Size

/-!
# Compiled patterns

A text is compiled in three steps: it is read into an expression, its flags are
applied, and the pattern has to be of acceptable size. A constraint of a
conditional has to match the whole of a field. That is written into the text
before it is compiled: the text is put into a group between the assertions for
the start and the end of the field. The text decides what this means. One that
closes the group itself, or leaves a comment open, changes the assertions' place.
-/
namespace GridPolicy.Pattern

/-- The pattern that a text describes, however large. -/
def read? (text : String) : Option Pattern :=
  (Parser.parse text.toList).bind fun e => (e.resolve? {}).map (·.1)

/-- The pattern that a text describes, if it describes one of acceptable size. -/
def compile? (text : String) : Option Pattern := (read? text).filter fits

/-- The text with the assertions around it that ask for a match of a whole field. -/
def anchoredText (text : String) : String := "^(?:" ++ text ++ ")$"

/-- The pattern for a whole field. -/
def anchored? (text : String) : Option Pattern := compile? (anchoredText text)

end GridPolicy.Pattern
