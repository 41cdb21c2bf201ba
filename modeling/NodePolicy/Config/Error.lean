import NodePolicy.Bounded
import NodePolicy.Duration.Error
import NodePolicy.Json.Fault
import NodePolicy.Record.Shape

/-!
Why a configuration cannot be read or written, and where. An error is a cause inside any number of
path segments: the names of members and the indices of elements, the outermost first. Message and
path join them in one way, and the kind is that of the cause.
-/

namespace NodePolicy

inductive ConfigError where
  | malformed (error : Json.ReadError)
  | field (error : FieldError)
  | capacity (error : CapacityError)
  | duration (error : DurationError)
  | failed (text : String)
  /-- An error inside a member or an element. -/
  | within (segment : String) (cause : ConfigError)
  deriving DecidableEq, Repr

namespace ConfigError

def element (index : Nat) : String := s!"[{index}]"

def kind : ConfigError → ErrorKind
  | malformed _ => .invalidArgument
  | field error => error.kind
  | capacity error => error.kind
  | duration error => error.kind
  | failed _ => .failed
  | within _ cause => cause.kind

def rootCause : ConfigError → ConfigError
  | within _ cause => cause.rootCause
  | error => error

def segments : ConfigError → List String
  | within segment cause => segment :: cause.segments
  | _ => []

/-- Adds a segment to a path: with a dot between, unless the path is empty or an index follows. -/
def joinSegment (path segment : String) : String :=
  if path.isEmpty || segment.startsWith "[" then path ++ segment else path ++ "." ++ segment

/-- The path of the place the error comes from, such as `resources[3].mounts[1].options`. -/
def fieldPath? (error : ConfigError) : Option String :=
  let path := error.segments.foldl joinSegment ""
  if path.isEmpty then none else some path

def causeMessage : ConfigError → String
  | malformed error => s!"could not parse config JSON: {error.message}"
  | field error => error.message
  | capacity error => error.message
  | duration error => error.message
  | failed text => text
  | within _ cause => cause.causeMessage

def message (error : ConfigError) : String :=
  match error.segments with
  | [] => error.causeMessage
  | outermost :: inner => s!"{inner.foldl joinSegment outermost}: {error.causeMessage}"

end ConfigError

def inside {α : Type} (segment : String) (result : Except ConfigError α) : Except ConfigError α :=
  result.mapError (.within segment)

end NodePolicy
