import NodePolicy.Proofs.Floored

/-!
The percentages of a configuration: all of them, and every one of them changed in its place. Times
and everything else stay what they were.
-/

namespace NodePolicy

def Rule.mapThresholds {α : Type} (change : α → α) (rule : Rule α) : Rule α :=
  { rule with
    minThreshold := change rule.minThreshold
    maxThreshold := change rule.maxThreshold }

def PartitionRule.mapPercentages (change : Binary64 → Binary64) (partition : PartitionRule) :
    PartitionRule :=
  { partition with rule := partition.rule.mapThresholds change }

def AlertRules.mapPercentages (change : Binary64 → Binary64) (rules : AlertRules) : AlertRules :=
  { rules with
    ram := rules.ram.map (Rule.mapThresholds change)
    cpu := rules.cpu.map (Rule.mapThresholds change)
    partitions := rules.partitions.map (PartitionRule.mapPercentages change) }

def Config.mapPercentages (change : Binary64 → Binary64) (config : Config) : Config :=
  { config with alertRules := config.alertRules.map (AlertRules.mapPercentages change) }

def PercentRule.percentages (rule : PercentRule) : List Binary64 :=
  [rule.minThreshold, rule.maxThreshold]

def Config.percentages (config : Config) : List Binary64 :=
  config.alertRules.toList.flatMap fun rules => rules.percentRules.flatMap PercentRule.percentages

section Change
variable (change : Binary64 → Binary64)

theorem AlertRules.percentRules_map (rules : AlertRules) :
    (rules.mapPercentages change).percentRules =
      rules.percentRules.map (Rule.mapThresholds change) := by
  obtain ⟨ram, cpu, partitions, download, upload⟩ := rules
  have names : (partitions.map (PartitionRule.mapPercentages change)).items.map PartitionRule.rule =
      partitions.items.map (Rule.mapThresholds change ∘ PartitionRule.rule) := by
    rw [BoundedList.map, List.map_map]
    rfl
  cases ram <;> cases cpu <;>
    simp [percentRules, mapPercentages, names]

theorem Config.timeouts_map (config : Config) :
    (config.mapPercentages change).timeouts = config.timeouts := by
  obtain ⟨version, nodeType, priority, devices, resources, labels, alertRules⟩ := config
  cases alertRules with
  | none => rfl
  | some rules =>
      have kept : (rules.percentRules.map (Rule.mapThresholds change)).map Rule.minTimeout =
          rules.percentRules.map Rule.minTimeout := by
        rw [List.map_map]
        rfl
      simp only [timeouts, mapPercentages, Option.map_some, Option.toList_some,
        List.flatMap_singleton, AlertRules.percentRules_map, kept]
      rfl

theorem Rule.mapThresholds_eq_iff (rule : PercentRule) :
    rule.mapThresholds change = rule ↔ ∀ x ∈ rule.percentages, change x = x := by
  obtain ⟨timeout, least, most⟩ := rule
  simp [mapThresholds, PercentRule.percentages]

theorem PartitionRule.mapPercentages_eq_iff (partition : PartitionRule) :
    partition.mapPercentages change = partition ↔
      ∀ x ∈ partition.rule.percentages, change x = x := by
  rw [← Rule.mapThresholds_eq_iff]
  constructor
  · intro same
    exact congrArg PartitionRule.rule same
  · intro same
    rw [mapPercentages, same]

theorem AlertRules.mapPercentages_eq_iff (rules : AlertRules) :
    rules.mapPercentages change = rules ↔
      ∀ rule ∈ rules.percentRules, ∀ x ∈ rule.percentages, change x = x := by
  obtain ⟨ram, cpu, partitions, download, upload⟩ := rules
  have items : partitions.map (PartitionRule.mapPercentages change) = partitions ↔
      ∀ partition ∈ partitions.items, ∀ x ∈ partition.rule.percentages, change x = x := by
    obtain ⟨items, fits⟩ := partitions
    simp only [BoundedList.map, BoundedList.mk.injEq, map_list_eq_iff,
      PartitionRule.mapPercentages_eq_iff]
  simp only [mapPercentages, AlertRules.mk.injEq, items, map_option_eq_iff,
    Rule.mapThresholds_eq_iff, forall_percentRules, and_true]

theorem Config.mapPercentages_eq_iff (config : Config) :
    config.mapPercentages change = config ↔ ∀ x ∈ config.percentages, change x = x := by
  obtain ⟨version, nodeType, priority, devices, resources, labels, alertRules⟩ := config
  cases alertRules with
  | none => simp [mapPercentages, percentages]
  | some rules =>
      simp only [mapPercentages, percentages, Config.mk.injEq, true_and, Option.map_some,
        Option.some.injEq, AlertRules.mapPercentages_eq_iff, Option.toList_some,
        List.flatMap_singleton, List.forall_mem_flatMap]

end Change

end NodePolicy
