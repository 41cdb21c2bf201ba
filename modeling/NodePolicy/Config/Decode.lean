import NodePolicy.Config.Basic
import NodePolicy.Config.Key
import NodePolicy.Config.Threshold
import NodePolicy.Duration.Reading
import NodePolicy.Record.Basic

/-!
From a JSON value to a configuration. Members are read in a fixed order and copied into bounded
texts and lists; the first failure ends the reading, and its path says where it happened. Members
that mean nothing here are passed over.
-/

namespace NodePolicy.Decode

def shaped {α : Type} (record : Record) (shape : Shape α) (name : String) : Except ConfigError α :=
  inside name ((record.getShaped shape name).mapError .field)

def text {bytes : Nat} (record : Record) (name : String) : Except ConfigError (BoundedText bytes) :=
  inside name do
    let value ← (record.getShaped .text name).mapError ConfigError.field
    (BoundedText.ofText value).mapError .capacity

/-- An array of texts; none at all when the member is missing. -/
def texts {bytes capacity : Nat} (record : Record) (name : String) :
    Except ConfigError (BoundedList (BoundedText bytes) capacity) :=
  inside name <| record.foldArray name .field .empty fun found index element =>
    inside (ConfigError.element index) do
      let value ← (Shape.text.extract element).mapError ConfigError.field
      (found.pushText value).mapError .capacity

def objects {α : Type} {capacity : Nat} (record : Record) (name : String)
    (decode : Record → Except ConfigError α) : Except ConfigError (BoundedList α capacity) :=
  inside name <| record.foldArray name .field .empty fun found index element =>
    inside (ConfigError.element index) do
      let object ← (Record.ofObject element).mapError ConfigError.field
      let value ← decode object
      (found.push value).mapError .capacity

def optionalObject {α : Type} (record : Record) (name : String)
    (decode : Record → Except ConfigError α) : Except ConfigError (Option α) :=
  if record.has name then
    inside name do
      let object ← (record.getObject name).mapError ConfigError.field
      return some (← decode object)
  else .ok none

def device (record : Record) : Except ConfigError Device := do
  return {
    name := ← text record Key.name
    sharedCount := ← shaped record .unsigned Key.sharedCount
    groups := ← texts record Key.groups
    hostDevices := ← texts record Key.hostDevices }

def mount (record : Record) : Except ConfigError Mount := do
  return {
    destination := ← text record Key.destination
    mountType := ← text record Key.mountType
    source := ← text record Key.source
    options := ← texts record Key.options }

def host (record : Record) : Except ConfigError Host := do
  return {
    address := ← text record Key.address
    hostName := ← text record Key.hostName }

def resource (record : Record) : Except ConfigError Resource := do
  return {
    name := ← text record Key.name
    groups := ← texts record Key.groups
    mounts := ← objects record Key.mounts mount
    environment := ← texts record Key.environment
    hosts := ← objects record Key.hosts host }

def minTimeout (record : Record) : Except ConfigError Duration :=
  inside Key.minTimeout do
    match ← (record.getOptional .text Key.minTimeout).mapError ConfigError.field with
    | some value => (Duration.read value).mapError ConfigError.duration
    | none => pure Duration.zero

def rule {α : Type} (threshold : Threshold α) (record : Record) : Except ConfigError (Rule α) := do
  return {
    minTimeout := ← minTimeout record
    minThreshold := ← shaped record threshold.shape Key.minThreshold
    maxThreshold := ← shaped record threshold.shape Key.maxThreshold }

def partitionRule (record : Record) : Except ConfigError PartitionRule := do
  return {
    name := ← text record Key.name
    rule := ← rule .percent record }

def alertRules (record : Record) : Except ConfigError AlertRules := do
  return {
    ram := ← optionalObject record Key.ram (rule .percent)
    cpu := ← optionalObject record Key.cpu (rule .percent)
    partitions := ← objects record Key.partitions partitionRule
    download := ← optionalObject record Key.download (rule .points)
    upload := ← optionalObject record Key.upload (rule .points) }

def withoutAlertRules (record : Record) : Except ConfigError Config := do
  return {
    version := ← text record Key.version
    nodeType := ← text record Key.nodeType
    priority := ← shaped record .unsigned32 Key.priority
    devices := ← objects record Key.devices device
    resources := ← objects record Key.resources resource
    labels := ← texts record Key.labels
    alertRules := none }

end NodePolicy.Decode

namespace NodePolicy

def Config.decode (value : Json) : Except ConfigError Config := do
  let record ← (Record.ofObject value).mapError ConfigError.field
  let config ← Decode.withoutAlertRules record
  let alertRules ← Decode.optionalObject record Key.alertRules Decode.alertRules
  return { config with alertRules }

end NodePolicy
