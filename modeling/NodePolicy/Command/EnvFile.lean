import NodePolicy.Text.Alphanumeric
import NodePolicy.Text.Split

/-!
Files of environment variables, a `name=value` on each line. A value may be quoted and may refer to
variables as `$name` or `${name}`. Reading ends at the first line that is none, and a variable that
is set already keeps its value.
-/

namespace NodePolicy.Command

abbrev Environment := List (String × String)

namespace EnvFile

def fileName : String := ".env"

inductive Part where
  | character (c : Char)
  | variable (name : String)
  deriving DecidableEq, Repr

structure Assignment where
  name : String
  value : List Part
  deriving DecidableEq, Repr

/-- Where the reading of a value stands. Inside double quotes most states come a second time. -/
inductive State where
  | plain (quoted : Bool)
  | escaped (quoted : Bool)
  | literal
  | reference (quoted : Bool) (name : List Char)
  | braced (quoted : Bool) (name : List Char)
  /-- Behind the value, where only blanks and a comment may follow. -/
  | ended

def variableNamed (reversed : List Char) : Part := .variable (String.ofList reversed.reverse)

def escape? (c : Char) : Option Char :=
  if c = '\\' ∨ c = '\'' ∨ c = '"' ∨ c = '$' ∨ c = ' ' then some c
  else if c = 'n' then some '\n'
  else none

/-- Reads on in a state. No quote and no brace may stay open. -/
def valueFrom : State → List Char → Option (List Part)
  | .plain quoted, [] => if quoted then none else some []
  | .escaped quoted, [] => if quoted then none else some []
  | .reference quoted name, [] => if quoted then none else some [variableNamed name]
  | .literal, [] => none
  | .braced _ _, [] => none
  | .ended, [] => some []
  | .ended, c :: rest =>
    if c = ' ' ∨ c = '\t' then valueFrom .ended rest
    else if c = '#' then some []
    else none
  | .escaped quoted, c :: rest =>
    (escape? c).bind fun c => (valueFrom (.plain quoted) rest).map (.character c :: ·)
  | .literal, c :: rest =>
    if c = '\'' then valueFrom (.plain false) rest
    else (valueFrom .literal rest).map (.character c :: ·)
  | .reference quoted name, c :: rest =>
    if Text.isAlphanumeric c then valueFrom (.reference quoted (c :: name)) rest
    else if c = '\x7b' ∧ name = [] then valueFrom (.braced quoted []) rest
    else if c = '$' then (valueFrom (.reference quoted []) rest).map (variableNamed name :: ·)
    else (valueFrom (.plain quoted) rest).map fun parts =>
      variableNamed name :: .character c :: parts
  | .braced quoted name, c :: rest =>
    if c = '\x7d' then (valueFrom (.plain quoted) rest).map (variableNamed name :: ·)
    else valueFrom (.braced quoted (c :: name)) rest
  | .plain quoted, c :: rest =>
    if c = '$' then valueFrom (.reference quoted []) rest
    else if c = '\\' then valueFrom (.escaped quoted) rest
    else if c = '"' then valueFrom (.plain !quoted) rest
    else if quoted then (valueFrom (.plain true) rest).map (.character c :: ·)
    else if c = '\'' then valueFrom .literal rest
    else if c = ' ' ∨ c = '\t' then valueFrom .ended rest
    else (valueFrom (.plain false) rest).map (.character c :: ·)

def beginsName (c : Char) : Bool := c.isAlpha || c == '_'

def continuesName (c : Char) : Bool := c.isAlphanum || c == '_' || c == '.'

def takeName (text : List Char) : Option (String × List Char) :=
  if text.head?.any beginsName then
    some (String.ofList (text.takeWhile continuesName),
      Text.trimStart (text.dropWhile continuesName))
  else none

def behindEquals : List Char → Option (List Char)
  | '=' :: rest => some (Text.trimStart rest)
  | _ => none

/-- Takes the name of an assignment and its equals sign. The word `export` in front is passed over,
unless it is the name. -/
def takeTarget (text : List Char) : Option (String × List Char) := do
  let (name, rest) ← takeName text
  match behindEquals rest with
  | some value => pure (name, value)
  | none =>
    if name = "export" then
      let (name, rest) ← takeName rest
      return (name, ← behindEquals rest)
    else none

def isEmptyOrComment (text : List Char) : Bool := text.isEmpty || text.head? == some '#'

def line? (line : List Char) : Option (Option Assignment) := do
  let line := Text.trim line
  if isEmptyOrComment line then pure none
  else
    let (name, value) ← takeTarget line
    if isEmptyOrComment value then pure (some ⟨name, []⟩)
    else return some ⟨name, ← valueFrom (.plain false) value⟩

/-- The assignments of lines up to the first that is none. -/
def assignmentsOf : List (List UInt8) → List Assignment
  | [] => []
  | bytes :: rest =>
    match (String.fromUTF8? ⟨bytes.toArray⟩).bind fun text => line? text.toList with
    | some found => found.toList ++ assignmentsOf rest
    | none => []

def assignments (content : List UInt8) : List Assignment :=
  assignmentsOf (Text.splitOn '\n'.toUInt8 content)

def expand (environment : Environment) (value : List Part) : String :=
  String.join (value.map fun
    | .character c => c.toString
    | .variable name => (environment.lookup name).getD "")

/-- Sets variables one after another; one that is set already stays as it is. -/
def apply (environment : Environment) (assignments : List Assignment) : Environment :=
  assignments.foldl (fun environment assignment =>
    if (environment.lookup assignment.name).isSome then environment
    else (assignment.name, expand environment assignment.value) :: environment) environment

def names (assignments : List Assignment) : List String :=
  assignments.flatMap fun assignment =>
    assignment.name :: assignment.value.filterMap fun
      | .variable name => some name
      | .character _ => none

end EnvFile

end NodePolicy.Command
