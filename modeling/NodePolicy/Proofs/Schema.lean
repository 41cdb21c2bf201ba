import Mathlib.Data.List.Forall2
import NodePolicy.Config.Basic
import NodePolicy.Config.Key
import NodePolicy.Duration.Reading
import NodePolicy.Record.Basic

/-!
What a configuration document means, without an order of reading. Every relation compares a JSON
value with the content it stands for: a text is taken over whole, an array element by element, and a
member that may be missing has a default only when no member is found, so a `null` is no absence.
The limits are those of the content's own type.
-/

namespace NodePolicy

def Json.member? (value : Json) (name : String) : Option Json :=
  (Record.ofValue value).get? name

namespace Schema

section Member
variable {α : Type} (means : Json → α → Prop)

def Required (value : Json) (name : String) (content : α) : Prop :=
  ∃ member, value.member? name = some member ∧ means member content

/-- A member that stands for a default when it is missing. -/
def Defaulting (default : α) (value : Json) (name : String) (content : α) : Prop :=
  Required means value name content ∨ (value.member? name = none ∧ content = default)

def Present (value : Json) (content : Option α) : Prop :=
  ∃ found, means value found ∧ content = some found

def IsArray {capacity : Nat} (value : Json) (content : BoundedList α capacity) : Prop :=
  ∃ elements, value = .array elements ∧ List.Forall₂ means elements content.items

end Member

def IsText {bytes : Nat} (value : Json) (content : BoundedText bytes) : Prop :=
  value = .string content.text

def IsUnsigned (value : Json) (content : UInt64) : Prop :=
  value = .number (.natural content)

def IsUnsigned32 (value : Json) (content : UInt32) : Prop :=
  ∃ number : UInt64, value = .number (.natural number) ∧ number.toNat = content.toNat

/-- Any number, an integer too, as its nearest binary64. -/
def IsPercentage (value : Json) (content : Binary64) : Prop :=
  ∃ number : Number, value = .number number ∧ number.toBinary64 = content

def IsTime (value : Json) (content : Duration) : Prop :=
  ∃ text, value = .string text ∧ Duration.read text = .ok content

structure IsDevice (value : Json) (device : Device) : Prop where
  object : value.isObject = true
  name : Required IsText value Key.name device.name
  sharedCount : Required IsUnsigned value Key.sharedCount device.sharedCount
  groups : Defaulting (IsArray IsText) .empty value Key.groups device.groups
  hostDevices : Defaulting (IsArray IsText) .empty value Key.hostDevices device.hostDevices

structure IsMount (value : Json) (mount : Mount) : Prop where
  object : value.isObject = true
  destination : Required IsText value Key.destination mount.destination
  mountType : Required IsText value Key.mountType mount.mountType
  source : Required IsText value Key.source mount.source
  options : Defaulting (IsArray IsText) .empty value Key.options mount.options

structure IsHost (value : Json) (host : Host) : Prop where
  object : value.isObject = true
  address : Required IsText value Key.address host.address
  hostName : Required IsText value Key.hostName host.hostName

structure IsResource (value : Json) (resource : Resource) : Prop where
  object : value.isObject = true
  name : Required IsText value Key.name resource.name
  groups : Defaulting (IsArray IsText) .empty value Key.groups resource.groups
  mounts : Defaulting (IsArray IsMount) .empty value Key.mounts resource.mounts
  environment : Defaulting (IsArray IsText) .empty value Key.environment resource.environment
  hosts : Defaulting (IsArray IsHost) .empty value Key.hosts resource.hosts

structure IsRule {α : Type} (isThreshold : Json → α → Prop) (value : Json) (rule : Rule α) :
    Prop where
  object : value.isObject = true
  minTimeout : Defaulting IsTime .zero value Key.minTimeout rule.minTimeout
  minThreshold : Required isThreshold value Key.minThreshold rule.minThreshold
  maxThreshold : Required isThreshold value Key.maxThreshold rule.maxThreshold

/-- The name of a partition stands among the members of its rule. -/
structure IsPartitionRule (value : Json) (partition : PartitionRule) : Prop where
  name : Required IsText value Key.name partition.name
  rule : IsRule IsPercentage value partition.rule

structure IsAlertRules (value : Json) (rules : AlertRules) : Prop where
  object : value.isObject = true
  ram : Defaulting (Present (IsRule IsPercentage)) none value Key.ram rules.ram
  cpu : Defaulting (Present (IsRule IsPercentage)) none value Key.cpu rules.cpu
  partitions : Defaulting (IsArray IsPartitionRule) .empty value Key.partitions rules.partitions
  download : Defaulting (Present (IsRule IsUnsigned)) none value Key.download rules.download
  upload : Defaulting (Present (IsRule IsUnsigned)) none value Key.upload rules.upload

structure IsConfig (value : Json) (config : Config) : Prop where
  object : value.isObject = true
  version : Required IsText value Key.version config.version
  nodeType : Required IsText value Key.nodeType config.nodeType
  priority : Required IsUnsigned32 value Key.priority config.priority
  devices : Defaulting (IsArray IsDevice) .empty value Key.devices config.devices
  resources : Defaulting (IsArray IsResource) .empty value Key.resources config.resources
  labels : Defaulting (IsArray IsText) .empty value Key.labels config.labels
  alertRules : Defaulting (Present IsAlertRules) none value Key.alertRules config.alertRules

end Schema

end NodePolicy
