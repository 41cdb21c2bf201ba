import NodePolicy.ErrorKind
import NodePolicy.Text.Quoted

/-!
Why a text is no duration. Every cause but the empty text carries the text itself.
-/

namespace NodePolicy

inductive DurationError where
  | empty
  | invalidFormat (text : String)
  /-- The text announces the ISO 8601 form and does not keep to it. -/
  | invalidIso8601 (text : String)
  | outOfRange (text : String)
  deriving DecidableEq, Repr

namespace DurationError

def kind : DurationError → ErrorKind
  | empty => .failed
  | invalidFormat _ | invalidIso8601 _ | outOfRange _ => .invalidArgument

def message : DurationError → String
  | empty => "empty duration string"
  | invalidFormat text => s!"invalid duration string: {Text.quoted text}"
  | invalidIso8601 text => s!"invalid ISO8601 duration format: {Text.quoted text}"
  | outOfRange text => s!"duration out of range: {Text.quoted text}"

end DurationError

end NodePolicy
