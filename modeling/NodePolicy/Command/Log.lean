import NodePolicy.Text.Split

/-!
The log. A specification such as `warn,nodecfg::command=debug/text` lists the levels up to which
events are shown, for all targets or for those that begin with a name, and may end in a text that a
message must hold. Of the directives that apply to a target the one with the longest name decides.
-/

namespace NodePolicy.Command

inductive Level where
  | error | warn | info | debug | trace
  deriving DecidableEq, Repr

namespace Level

def rank : Level → Nat
  | error => 1
  | warn => 2
  | info => 3
  | debug => 4
  | trace => 5

def label : Level → String
  | error => "ERROR"
  | warn => "WARN "
  | info => "INFO "
  | debug => "DEBUG"
  | trace => "TRACE"

end Level

structure Event where
  level : Level
  target : String
  message : String
  deriving DecidableEq, Repr

/-- The line of an event. Further lines of its message are indented. -/
def Event.line (event : Event) : String :=
  let lines := (Text.splitOn '\n' event.message.toList).map String.ofList
  let message := String.intercalate "\n    " lines
  s!"[{event.level.label} {event.target}] {message}\n"

/-- Shows events up to a rank whose target begins with a name. -/
structure Directive where
  name : Option (List Char)
  rank : Nat
  deriving DecidableEq, Repr

structure LogFilter where
  directives : List Directive
  held : Option (List Char)
  deriving DecidableEq, Repr

namespace LogFilter

def rankNamed? (name : List Char) : Option Nat :=
  let ranks : List (List Char × Nat) :=
    [ ("off".toList, 0), ("error".toList, 1), ("warn".toList, 2), ("info".toList, 3),
      ("debug".toList, 4), ("trace".toList, 5) ]
  ranks.lookup (name.map Char.toLower)

def maxRank : Nat := 5

/-- The directive that a part of a specification stands for, or the text that is to blame: a level
for all targets, a name, or a name and its level. -/
def directive (part : List Char) : Except (List Char) Directive :=
  match Text.splitOn '=' part with
  | [name] =>
    match rankNamed? name with
    | some rank => .ok ⟨none, rank⟩
    | none => .ok ⟨some name, maxRank⟩
  | [name, level] =>
    let level := Text.trim level
    if level = [] then .ok ⟨some name, maxRank⟩
    else match rankNamed? level with
      | some rank => .ok ⟨some name, rank⟩
      | none => .error level
  | _ => .error part

def insert (directives : List Directive) (new : Directive) : List Directive :=
  match directives with
  | [] => [new]
  | first :: rest => if first.name = new.name then new :: rest else first :: insert rest new

def directivesOf (parts : List (List Char)) : List Directive × List (List Char) :=
  let read := ((parts.map Text.trim).filter (· ≠ [])).map directive
  (read.filterMap Except.toOption |>.foldl insert [],
    read.filterMap fun
      | .ok _ => none
      | .error fault => some fault)

def fallback : Directive := ⟨none, Level.error.rank⟩

def ofDirectives (directives : List Directive) (held : Option (List Char)) : LogFilter :=
  ⟨if directives = [] then [fallback] else directives, held⟩

def warning (fault : List Char) : String :=
  s!"warning: invalid logging spec '{String.ofList fault}', ignoring it\n"

def parse (specification : String) : LogFilter × List String :=
  match Text.splitOn '/' specification.toList with
  | list :: rest =>
    if rest.length ≤ 1 then
      let (directives, faults) := directivesOf (Text.splitOn ',' list)
      (ofDirectives directives rest.head?, faults.map warning)
    else
      (ofDirectives [] none,
        [s!"warning: invalid logging spec '{specification}' (too many '/'s), ignoring it\n"])
  | [] => (ofDirectives [] none, [])

def Directive.applies (directive : Directive) (target : List Char) : Bool :=
  match directive.name with
  | some name => name.isPrefixOf target
  | none => true

def Directive.nameBytes (directive : Directive) : Nat :=
  match directive.name with
  | some name => (String.ofList name).utf8ByteSize
  | none => 0

/-- The directive that decides on a target: of those that apply, the last with the longest name. -/
def deciding? (filter : LogFilter) (target : List Char) : Option Directive :=
  (filter.directives.filter (Directive.applies · target)).foldl (fun best next =>
    match best with
    | some found =>
      if Directive.nameBytes found ≤ Directive.nameBytes next then some next else some found
    | none => some next) none

def shows (filter : LogFilter) (event : Event) : Bool :=
  (filter.deciding? event.target.toList).any (fun found => event.level.rank ≤ found.rank)
    && filter.held.all fun part => Text.holds part event.message.toList

end LogFilter

end NodePolicy.Command
