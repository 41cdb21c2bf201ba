import NodePolicy.Config.Basic
import NodePolicy.Config.Key
import NodePolicy.Config.Threshold
import NodePolicy.Duration.Iso8601

/-!
From a configuration to a JSON value, the members of every object in a fixed order. Only a
percentage that is not finite can make it fail, and the path says which one.
-/

namespace NodePolicy.Encode

def text {bytes : Nat} (value : BoundedText bytes) : Json := .string value.text

def texts {bytes capacity : Nat} (values : BoundedList (BoundedText bytes) capacity) : Json :=
  .array (values.items.map text)

def device (device : Device) : Json :=
  .object
    [ (Key.name, text device.name),
      (Key.sharedCount, .ofUInt64 device.sharedCount),
      (Key.groups, texts device.groups),
      (Key.hostDevices, texts device.hostDevices) ]

def mount (mount : Mount) : Json :=
  .object
    [ (Key.destination, text mount.destination),
      (Key.mountType, text mount.mountType),
      (Key.source, text mount.source),
      (Key.options, texts mount.options) ]

def host (host : Host) : Json :=
  .object
    [ (Key.address, text host.address),
      (Key.hostName, text host.hostName) ]

def resource (resource : Resource) : Json :=
  .object
    [ (Key.name, text resource.name),
      (Key.groups, texts resource.groups),
      (Key.mounts, .array (resource.mounts.items.map mount)),
      (Key.environment, texts resource.environment),
      (Key.hosts, .array (resource.hosts.items.map host)) ]

/-- The members of a rule. A time that is not positive is left out. -/
def rule {α : Type} (threshold : Threshold α) (rule : Rule α) :
    Except ConfigError (List (String × Json)) := do
  let least ← inside Key.minThreshold (threshold.write rule.minThreshold)
  let most ← inside Key.maxThreshold (threshold.write rule.maxThreshold)
  let timeout :=
    if rule.minTimeout.isPositive then
      [(Key.minTimeout, Json.string (Duration.Iso8601.write rule.minTimeout))]
    else []
  return timeout ++ [(Key.minThreshold, least), (Key.maxThreshold, most)]

def partitionRule (partition : PartitionRule) : Except ConfigError Json := do
  return .object ((Key.name, text partition.name) :: (← rule .percent partition.rule))

def optionalRule {α : Type} (threshold : Threshold α) (name : String) :
    Option (Rule α) → Except ConfigError (List (String × Json))
  | some found => inside name do return [(name, .object (← rule threshold found))]
  | none => .ok []

/-- All elements written from an index on; the first failure names its index. -/
def elements {α : Type} (encode : α → Except ConfigError Json) :
    Nat → List α → Except ConfigError (List Json)
  | _, [] => .ok []
  | index, value :: rest => do
    let first ← inside (ConfigError.element index) (encode value)
    return first :: (← elements encode (index + 1) rest)

def alertRules (rules : AlertRules) : Except ConfigError Json := do
  let ram ← optionalRule .percent Key.ram rules.ram
  let cpu ← optionalRule .percent Key.cpu rules.cpu
  let download ← optionalRule .points Key.download rules.download
  let upload ← optionalRule .points Key.upload rules.upload
  let partitions ← inside Key.partitions (elements partitionRule 0 rules.partitions.items)
  return .object (ram ++ cpu ++ download ++ upload ++ [(Key.partitions, .array partitions)])

def optionalAlertRules : Option AlertRules → Except ConfigError (List (String × Json))
  | some rules => inside Key.alertRules do return [(Key.alertRules, ← alertRules rules)]
  | none => .ok []

end NodePolicy.Encode

namespace NodePolicy

def Encode.leadingMembers (config : Config) : List (String × Json) :=
  [ (Key.version, text config.version),
    (Key.nodeType, text config.nodeType),
    (Key.priority, .ofUInt64 config.priority.toUInt64),
    (Key.devices, .array (config.devices.items.map device)),
    (Key.resources, .array (config.resources.items.map resource)),
    (Key.labels, texts config.labels) ]

def Config.encodeMembers (config : Config) : Except ConfigError (List (String × Json)) := do
  return Encode.leadingMembers config ++ (← Encode.optionalAlertRules config.alertRules)

def Config.encode (config : Config) : Except ConfigError Json := do
  return .object (← config.encodeMembers)

end NodePolicy
