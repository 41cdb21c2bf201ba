import NodePolicy.Duration.Compact
import NodePolicy.Duration.Iso8601
import NodePolicy.Duration.Seconds

/-!
Reading a duration in any of its three forms. A text that announces ISO 8601 is held to that form;
otherwise a bare number of seconds comes before the compact form.
-/

namespace NodePolicy.Duration

def read (text : String) : Except DurationError Duration :=
  let characters := text.toList
  if characters = [] then .error .empty
  else if Iso8601.isAnnounced characters then Iso8601.read text
  else match Seconds.numeral? characters with
    | some numeral => Seconds.read text numeral
    | none =>
      match Compact.groups? characters with
      | some found => Compact.read text found
      | none => .error (.invalidFormat text)

def toText (duration : Duration) : String := Iso8601.write duration

instance : ToString Duration := ⟨toText⟩

end NodePolicy.Duration
