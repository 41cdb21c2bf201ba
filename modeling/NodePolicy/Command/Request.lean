/-!
What the command line asks for. The command comes first; behind it the first free argument counts
and further ones are passed over.
-/

namespace NodePolicy.Command

inductive Request where
  | check (path : String)
  | normalize (indented : Bool) (path : String)
  | duration (text : String)
  deriving DecidableEq, Repr

inductive UsageError where
  | noCommand
  | missingArgument
  deriving DecidableEq, Repr

def UsageError.message : UsageError → String
  | noCommand => "Subcommand must be one of 'check', 'normalize', 'duration'"
  | missingArgument => "free-standing argument is missing"

namespace Request

/-- The option that asks for indented output. It may stand anywhere behind its command. -/
def indentedOption : String := "--pretty"

def free : List String → Except UsageError String
  | first :: _ => .ok first
  | [] => .error .missingArgument

def ofArguments : List String → Except UsageError Request
  | "check" :: rest => (free rest).map check
  | "normalize" :: rest =>
    (free (rest.erase indentedOption)).map (normalize (rest.contains indentedOption))
  | "duration" :: rest => (free rest).map duration
  | _ => .error .noCommand

def path? : Request → Option String
  | check path | normalize _ path => some path
  | duration _ => none

end Request

def requestedPath? (arguments : List String) : Option String :=
  (Request.ofArguments arguments).toOption.bind Request.path?

end NodePolicy.Command
