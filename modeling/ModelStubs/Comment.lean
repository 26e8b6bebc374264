import ModelStubs.Model
import ModelStubs.Text.Blank

/-!
# Documentation comments

The text of a comment stands on one line of the output, inside an element of XML. Line breaks in a summary are flattened
(`flatten`), then the five characters with a meaning in XML are escaped (`escape`).
-/

namespace ModelStubs.Comment

/-- Whether a character breaks a line. -/
def isLineBreak (c : Char) : Bool := c = '\r' || c = '\n'

/-- What a run of white space becomes: one space if it holds a line break, and itself if not. -/
def flattenRun (run : Text) : Text := if run.any isLineBreak then [' '] else run

/-- The text with every run of white space flattened; `run` is the white space read last, backwards. -/
def flattenFrom (run : Text) : Text → Text
  | [] => flattenRun run.reverse
  | c :: rest =>
    if Text.isBlank c then flattenFrom (c :: run) rest
    else flattenRun run.reverse ++ c :: flattenFrom [] rest

/-- A text on one line: a run of white space with a line break in it becomes a space, other white space is kept, and the
result is trimmed. -/
def flatten (t : Text) : Text := Text.trim (flattenFrom [] t)

/-- A character inside an element of XML. -/
def escapeChar (c : Char) : Text :=
  if c = '<' then "&lt;".toList
  else if c = '>' then "&gt;".toList
  else if c = '&' then "&amp;".toList
  else if c = '\'' then "&apos;".toList
  else if c = '"' then "&quot;".toList
  else [c]

/-- A text inside an element of XML. -/
def escape (t : Text) : Text := t.flatMap escapeChar

/-- What is said of a property without a summary. -/
def defaultSentence (owner : Object) (property : Property) : Text :=
  "The ".toList ++ property.name ++ " property as defined in ".toList ++ owner.fullName

/-- The comment on a property: its summary, or else the default sentence, which names it as declared. -/
def ofProperty (owner : Object) (property : Property) : Text :=
  escape (flatten (property.summary.getD (defaultSentence owner property)))

end ModelStubs.Comment
