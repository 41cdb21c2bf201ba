import NodePolicy.Config.Basic

/-!
Edits of a configuration. An edit that would break a limit, or that names an element which is not
there, has an error for its result.
-/

namespace NodePolicy

inductive EditError where
  | noSuchElement
  | capacity (error : CapacityError)
  deriving DecidableEq, Repr

namespace Edit

def bounded {α : Type} (result : Except CapacityError α) : Except EditError α :=
  result.mapError .capacity

def text {bytes : Nat} (value : String) : Except EditError (BoundedText bytes) :=
  bounded (BoundedText.ofText value)

def element {α : Type} {capacity : Nat} (list : BoundedList α capacity) (index : Nat)
    (change : α → Except EditError α) : Except EditError (BoundedList α capacity) :=
  match list.items[index]? with
  | none => .error .noSuchElement
  | some item => do return list.set index (← change item)

end Edit

namespace Config

open Edit

def setVersion (config : Config) (value : String) : Except EditError Config := do
  return { config with version := ← bounded (config.version.assign value) }

def setNodeType (config : Config) (value : String) : Except EditError Config := do
  return { config with nodeType := ← bounded (config.nodeType.assign value) }

def setPriority (config : Config) (priority : UInt32) : Config := { config with priority }

def addLabel (config : Config) (value : String) : Except EditError Config := do
  return { config with labels := ← bounded (config.labels.pushText value) }

/-- Replaces all labels. A label that is too long comes before too many of them. -/
def setLabels (config : Config) (values : List String) : Except EditError Config := do
  let labels ← values.mapM text
  return { config with labels := ← bounded (BoundedList.ofList labels) }

def addDevice (config : Config) (name : String) (sharedCount : UInt64) :
    Except EditError Config := do
  let device : Device := { name := ← text name, sharedCount, groups := .empty, hostDevices := .empty }
  return { config with devices := ← bounded (config.devices.push device) }

def editDevice (config : Config) (index : Nat) (change : Device → Except EditError Device) :
    Except EditError Config := do
  return { config with devices := ← element config.devices index change }

def addDeviceGroup (config : Config) (index : Nat) (value : String) : Except EditError Config :=
  config.editDevice index fun device => do
    return { device with groups := ← bounded (device.groups.pushText value) }

def addHostDevice (config : Config) (index : Nat) (value : String) : Except EditError Config :=
  config.editDevice index fun device => do
    return { device with hostDevices := ← bounded (device.hostDevices.pushText value) }

def addResource (config : Config) (name : String) : Except EditError Config := do
  let resource : Resource :=
    { name := ← text name, groups := .empty, mounts := .empty, environment := .empty,
      hosts := .empty }
  return { config with resources := ← bounded (config.resources.push resource) }

def editResource (config : Config) (index : Nat) (change : Resource → Except EditError Resource) :
    Except EditError Config := do
  return { config with resources := ← element config.resources index change }

def addResourceGroup (config : Config) (index : Nat) (value : String) : Except EditError Config :=
  config.editResource index fun resource => do
    return { resource with groups := ← bounded (resource.groups.pushText value) }

def addVariable (config : Config) (index : Nat) (value : String) : Except EditError Config :=
  config.editResource index fun resource => do
    return { resource with environment := ← bounded (resource.environment.pushText value) }

def addHost (config : Config) (index : Nat) (address hostName : String) :
    Except EditError Config :=
  config.editResource index fun resource => do
    let host : Host := { address := ← text address, hostName := ← text hostName }
    return { resource with hosts := ← bounded (resource.hosts.push host) }

def addMount (config : Config) (index : Nat) (destination mountType source : String) :
    Except EditError Config :=
  config.editResource index fun resource => do
    let mount : Mount :=
      { destination := ← text destination, mountType := ← text mountType, source := ← text source,
        options := .empty }
    return { resource with mounts := ← bounded (resource.mounts.push mount) }

def addMountOption (config : Config) (index mountIndex : Nat) (value : String) :
    Except EditError Config :=
  config.editResource index fun resource => do
    let mounts ← element resource.mounts mountIndex fun mount => do
      return { mount with options := ← bounded (mount.options.pushText value) }
    return { resource with mounts }

def resetAlertRules (config : Config) : Config :=
  { config with alertRules := some AlertRules.empty }

def dropAlertRules (config : Config) : Config := { config with alertRules := none }

def alertRulesOrEmpty (config : Config) : AlertRules := config.alertRules.getD AlertRules.empty

def ensureAlertRules (config : Config) : Config :=
  { config with alertRules := some config.alertRulesOrEmpty }

def setRam (config : Config) (rule : PercentRule) : Config :=
  { config with alertRules := some { config.alertRulesOrEmpty with ram := some rule } }

def setCpu (config : Config) (rule : PercentRule) : Config :=
  { config with alertRules := some { config.alertRulesOrEmpty with cpu := some rule } }

def setDownload (config : Config) (rule : PointRule) : Config :=
  { config with alertRules := some { config.alertRulesOrEmpty with download := some rule } }

def setUpload (config : Config) (rule : PointRule) : Config :=
  { config with alertRules := some { config.alertRulesOrEmpty with upload := some rule } }

def addPartition (config : Config) (name : String) (rule : PercentRule) :
    Except EditError Config := do
  let rules := config.alertRulesOrEmpty
  let partition : PartitionRule := { name := ← text name, rule }
  let partitions ← bounded (rules.partitions.push partition)
  return { config with alertRules := some { rules with partitions } }

end Config

end NodePolicy
