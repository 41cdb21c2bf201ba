import NodePolicy.Binary64.Basic
import NodePolicy.Bounded
import NodePolicy.Config.Limits
import NodePolicy.Duration.Basic

/-!
The configuration of a node: what it is, the devices and resources it offers, and the rules that
raise an alert. Every text and every list is bounded.
-/

namespace NodePolicy

abbrev Label := BoundedText Limits.labelBytes
abbrev GroupName := BoundedText Limits.groupBytes
abbrev Groups := BoundedList GroupName Limits.groups

structure Device where
  name : BoundedText Limits.deviceNameBytes
  sharedCount : UInt64
  groups : Groups
  hostDevices : BoundedList (BoundedText Limits.hostDeviceBytes) Limits.hostDevices
  deriving DecidableEq, Inhabited

structure Mount where
  destination : BoundedText Limits.mountPathBytes
  mountType : BoundedText Limits.mountTypeBytes
  source : BoundedText Limits.mountPathBytes
  options : BoundedList (BoundedText Limits.mountOptionBytes) Limits.mountOptions
  deriving DecidableEq, Inhabited

structure Host where
  address : BoundedText Limits.addressBytes
  hostName : BoundedText Limits.hostNameBytes
  deriving DecidableEq, Inhabited

structure Resource where
  name : BoundedText Limits.resourceNameBytes
  groups : Groups
  mounts : BoundedList Mount Limits.mounts
  environment : BoundedList (BoundedText Limits.variableBytes) Limits.environment
  hosts : BoundedList Host Limits.hosts
  deriving DecidableEq, Inhabited

/-- Two thresholds, and how long one must be crossed before it is reported. A time of zero stands
for none given. -/
structure Rule (α : Type) where
  minTimeout : Duration
  minThreshold : α
  maxThreshold : α
  deriving DecidableEq

abbrev PercentRule := Rule Binary64

abbrev PointRule := Rule UInt64

structure PartitionRule where
  name : BoundedText Limits.partitionNameBytes
  rule : PercentRule
  deriving DecidableEq

structure AlertRules where
  ram : Option PercentRule
  cpu : Option PercentRule
  partitions : BoundedList PartitionRule Limits.partitions
  download : Option PointRule
  upload : Option PointRule
  deriving DecidableEq, Inhabited

structure Config where
  version : BoundedText Limits.versionBytes
  nodeType : BoundedText Limits.nodeTypeBytes
  priority : UInt32
  devices : BoundedList Device Limits.devices
  resources : BoundedList Resource Limits.resources
  labels : BoundedList Label Limits.labels
  alertRules : Option AlertRules
  deriving DecidableEq

def AlertRules.empty : AlertRules := ⟨none, none, .empty, none, none⟩

def Config.empty : Config := ⟨.empty, .empty, 0, .empty, .empty, .empty, none⟩

instance : Inhabited Config := ⟨Config.empty⟩

/-! Equality by value. Percentages are compared as numbers, so the two zeros are equal and a
threshold that is not a number equals none. -/

def Rule.same {α : Type} (equal : α → α → Bool) (first second : Rule α) : Bool :=
  first.minTimeout == second.minTimeout && equal first.minThreshold second.minThreshold
    && equal first.maxThreshold second.maxThreshold

def sameOption {α : Type} (equal : α → α → Bool) : Option α → Option α → Bool
  | some first, some second => equal first second
  | none, none => true
  | _, _ => false

def sameList {α : Type} (equal : α → α → Bool) : List α → List α → Bool
  | first :: firsts, second :: seconds => equal first second && sameList equal firsts seconds
  | [], [] => true
  | _, _ => false

def PercentRule.same (first second : PercentRule) : Bool := Rule.same Binary64.same first second

def PartitionRule.same (first second : PartitionRule) : Bool :=
  first.name == second.name && PercentRule.same first.rule second.rule

def AlertRules.same (first second : AlertRules) : Bool :=
  sameOption PercentRule.same first.ram second.ram
    && sameOption PercentRule.same first.cpu second.cpu
    && sameList PartitionRule.same first.partitions.items second.partitions.items
    && first.download == second.download && first.upload == second.upload

def Config.same (first second : Config) : Bool :=
  first.version == second.version && first.nodeType == second.nodeType
    && first.priority == second.priority && first.devices == second.devices
    && first.resources == second.resources && first.labels == second.labels
    && sameOption AlertRules.same first.alertRules second.alertRules

end NodePolicy
