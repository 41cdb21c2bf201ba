import NodePolicy.Command.EnvFile
import NodePolicy.Command.Folder
import NodePolicy.Command.Log
import NodePolicy.Command.Request
import NodePolicy.Config.Document
import NodePolicy.Text.Quoted

/-!
The command line program as a function: from its arguments, its environment and the files it can
read to what it prints and the code it ends with.
-/

namespace NodePolicy.Command

structure Outcome where
  code : UInt32
  output : String
  errors : String
  deriving DecidableEq, Repr

def decodeTarget : String := "nodecfg::node_mgmt::decode"
def encodeTarget : String := "nodecfg::node_mgmt::encode"
def commandTarget : String := "nodecfg::command"

/-- Alert rules are about to be read: everything before them has been, and they are an object. -/
def rulesEvents (value : Json) : List Event :=
  match Record.ofObject value with
  | .error _ => []
  | .ok record =>
    match Decode.withoutAlertRules record, record.getObject Key.alertRules with
    | .ok _, .ok rules =>
      [⟨.trace, decodeTarget, s!"Decoding alert rules: {Text.quotedList rules.names}"⟩]
    | _, _ => []

def decodedEvent (config : Config) : Event :=
  ⟨.debug, decodeTarget,
    s!"Decoded node config version {config.version.text} ({config.devices.size} devices, {
      config.resources.size} resources, {config.labels.size} labels, alert rules: {
      config.alertRules.isSome})"⟩

def loadedEvent (path : String) : Event :=
  ⟨.info, commandTarget, s!"Loaded node config from {path}"⟩

def encodedEvent (config : Config) (members : Nat) : Event :=
  ⟨.debug, encodeTarget,
    s!"Encoded node config version {config.version.text} ({members} top-level keys)"⟩

/-- The events of a piece of work, in order, and its result or the message of its failure. -/
abbrev Work (α : Type) := List Event × Except String α

def load (path : String) (content : Except FileError (List UInt8)) : Work Config :=
  match content with
  | .error error => ([], .error s!"Could not read {path}: {error.message}")
  | .ok bytes =>
    let refuse (error : ConfigError) : Except String Config :=
      .error s!"Invalid node config {path} ({error.kind.name}): {error.message}"
    match Json.readBytes bytes with
    | .error error => ([], refuse (.malformed error))
    | .ok value =>
      match Config.decode value with
      | .error error => (rulesEvents value, refuse error)
      | .ok config =>
        (rulesEvents value ++ [decodedEvent config, loadedEvent path], .ok config)

def summary (config : Config) : String :=
  let rules := if config.alertRules.isSome then "yes" else "no"
  s!"{config.nodeType.text} {config.version.text} (priority {config.priority}): {
    config.devices.size} devices, {config.resources.size} resources, {
    config.labels.size} labels, alert rules: {rules}"

def document (indented : Bool) (config : Config) : Work String :=
  match config.encodeMembers with
  | .error error => ([], .error s!"Could not encode node config: {error.message}")
  | .ok members =>
    let value := Json.object members
    ([encodedEvent config members.length], .ok (if indented then value.indented else value.compact))

def showDuration (text : String) : Except String String :=
  match Duration.read text with
  | .ok duration => .ok s!"{duration.nanos} {duration.toText}"
  | .error error => .error s!"Could not parse '{text}': {error.message}"

def perform (read : String → Except FileError (List UInt8)) : Request → Work String
  | .check path =>
    let (events, loaded) := load path (read path)
    (events, loaded.map summary)
  | .normalize indented path =>
    match load path (read path) with
    | (events, .error message) => (events, .error message)
    | (events, .ok config) =>
      let (more, written) := document indented config
      (events ++ more, written)
  | .duration text => ([], showDuration text)

def logVariable : String := "LOG_LEVEL"

def defaultLog : String := "info"

/-- Runs the program. Variables of the file are set before the log is. -/
def run (environment : Environment) (assignments : List EnvFile.Assignment)
    (read : String → Except FileError (List UInt8)) (arguments : List String) : Outcome :=
  let environment := EnvFile.apply environment assignments
  let (filter, warnings) := LogFilter.parse ((environment.lookup logVariable).getD defaultLog)
  let (events, result) :=
    match Request.ofArguments arguments with
    | .ok request => perform read request
    | .error error => ([], .error error.message)
  let log := String.join (warnings ++ (events.filter filter.shows).map Event.line)
  match result with
  | .ok line => ⟨0, line ++ "\n", log⟩
  | .error message => ⟨1, "", log ++ s!"Error: {message}\n"⟩

/-- Runs the program in a folder. Nothing lies above it, so the file of variables is its own. -/
def runIn (folder : Folder) (environment : Environment) (arguments : List String) : Outcome :=
  let assignments := match folder.read EnvFile.fileName with
    | .ok content => EnvFile.assignments content
    | .error _ => []
  run environment assignments folder.read arguments

end NodePolicy.Command
