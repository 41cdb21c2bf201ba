import NodePolicy.Config.Basic

/-!
What writing a configuration does to its times. A rule whose time is not positive is written without
one, and zero is what a missing time stands for, so a negative time comes back as zero. Nothing else
of a configuration changes.
-/

namespace NodePolicy

def BoundedList.map {α β : Type} {capacity : Nat} (change : α → β) (list : BoundedList α capacity) :
    BoundedList β capacity :=
  ⟨list.items.map change, by rw [List.length_map]; exact list.fits⟩

def Duration.floored (duration : Duration) : Duration :=
  if duration.nanos < 0 then zero else duration

def Rule.floored {α : Type} (rule : Rule α) : Rule α :=
  { rule with minTimeout := rule.minTimeout.floored }

def PartitionRule.floored (partition : PartitionRule) : PartitionRule :=
  { partition with rule := partition.rule.floored }

def AlertRules.floored (rules : AlertRules) : AlertRules where
  ram := rules.ram.map Rule.floored
  cpu := rules.cpu.map Rule.floored
  partitions := rules.partitions.map PartitionRule.floored
  download := rules.download.map Rule.floored
  upload := rules.upload.map Rule.floored

/-- Zero in the place of every negative time. -/
def Config.floored (config : Config) : Config :=
  { config with alertRules := config.alertRules.map AlertRules.floored }

def AlertRules.percentRules (rules : AlertRules) : List PercentRule :=
  rules.ram.toList ++ rules.cpu.toList ++ rules.partitions.items.map PartitionRule.rule

def AlertRules.pointRules (rules : AlertRules) : List PointRule :=
  rules.download.toList ++ rules.upload.toList

def Config.timeouts (config : Config) : List Duration :=
  config.alertRules.toList.flatMap fun rules =>
    rules.percentRules.map Rule.minTimeout ++ rules.pointRules.map Rule.minTimeout

structure PercentRule.IsFinite (rule : PercentRule) : Prop where
  minThreshold : rule.minThreshold.isFinite = true
  maxThreshold : rule.maxThreshold.isFinite = true

/-- All percentages can be written. -/
def Config.FinitePercentages (config : Config) : Prop :=
  ∀ rules ∈ config.alertRules, ∀ rule ∈ rules.percentRules, rule.IsFinite

instance (rule : PercentRule) : Decidable rule.IsFinite :=
  decidable_of_iff (rule.minThreshold.isFinite = true ∧ rule.maxThreshold.isFinite = true)
    ⟨fun finite => ⟨finite.1, finite.2⟩, fun finite => ⟨finite.minThreshold, finite.maxThreshold⟩⟩

instance (config : Config) : Decidable config.FinitePercentages :=
  inferInstanceAs
    (Decidable (∀ rules ∈ config.alertRules, ∀ rule ∈ rules.percentRules, rule.IsFinite))

theorem AlertRules.forall_percentRules (rules : AlertRules) (holds : PercentRule → Prop) :
    (∀ rule ∈ rules.percentRules, holds rule) ↔
      (∀ rule ∈ rules.ram.toList, holds rule) ∧ (∀ rule ∈ rules.cpu.toList, holds rule) ∧
        ∀ partition ∈ rules.partitions.items, holds partition.rule := by
  simp only [percentRules, List.forall_mem_append, List.forall_mem_map, and_assoc]

theorem Duration.floored_of_positive (duration : Duration) (positive : duration.isPositive = true) :
    duration.floored = duration := by
  rw [isPositive, decide_eq_true_iff] at positive
  rw [floored, if_neg (by omega)]

theorem Duration.floored_of_not_positive (duration : Duration)
    (other : ¬ duration.isPositive = true) : duration.floored = zero := by
  rw [isPositive, decide_eq_true_iff] at other
  rw [floored]
  split
  · rfl
  · apply Duration.ext
    show duration.nanos = 0
    omega

theorem Duration.floored_eq_iff (duration : Duration) :
    duration.floored = duration ↔ 0 ≤ duration.nanos := by
  rw [floored]
  constructor
  · intro same
    split at same
    · rw [← same]
      exact Int.le_refl 0
    · omega
  · intro nonnegative
    rw [if_neg (by omega)]

theorem Rule.floored_eq_iff {α : Type} (rule : Rule α) :
    rule.floored = rule ↔ 0 ≤ rule.minTimeout.nanos := by
  rw [← Duration.floored_eq_iff]
  constructor
  · intro same
    exact congrArg Rule.minTimeout same
  · intro same
    rw [floored, same]

theorem PartitionRule.floored_eq_iff (partition : PartitionRule) :
    partition.floored = partition ↔ 0 ≤ partition.rule.minTimeout.nanos := by
  rw [← Rule.floored_eq_iff]
  constructor
  · intro same
    exact congrArg PartitionRule.rule same
  · intro same
    rw [floored, same]

theorem map_list_eq_iff {α : Type} (change : α → α) (items : List α) :
    items.map change = items ↔ ∀ item ∈ items, change item = item := by
  induction items with
  | nil => simp
  | cons item rest ih => simp [ih]

theorem map_option_eq_iff {α : Type} (change : α → α) (item : Option α) :
    item.map change = item ↔ ∀ found ∈ item.toList, change found = found := by
  cases item <;> simp

theorem AlertRules.floored_eq_iff (rules : AlertRules) :
    rules.floored = rules ↔
      (∀ rule ∈ rules.percentRules, 0 ≤ rule.minTimeout.nanos) ∧
        ∀ rule ∈ rules.pointRules, 0 ≤ rule.minTimeout.nanos := by
  obtain ⟨ram, cpu, partitions, download, upload⟩ := rules
  have items : partitions.map PartitionRule.floored = partitions ↔
      ∀ partition ∈ partitions.items, 0 ≤ partition.rule.minTimeout.nanos := by
    obtain ⟨items, fits⟩ := partitions
    simp only [BoundedList.map, BoundedList.mk.injEq, map_list_eq_iff,
      PartitionRule.floored_eq_iff]
  simp only [floored, AlertRules.mk.injEq, items, map_option_eq_iff, Rule.floored_eq_iff,
    forall_percentRules, pointRules, List.forall_mem_append, and_assoc]

theorem Config.floored_eq_iff (config : Config) :
    config.floored = config ↔ ∀ timeout ∈ config.timeouts, 0 ≤ timeout.nanos := by
  obtain ⟨version, nodeType, priority, devices, resources, labels, alertRules⟩ := config
  cases alertRules with
  | none => simp [floored, timeouts]
  | some rules =>
      simp only [floored, timeouts, Config.mk.injEq, true_and, Option.map_some,
        Option.some.injEq, AlertRules.floored_eq_iff, Option.toList_some, List.flatMap_singleton,
        List.forall_mem_append, List.forall_mem_map]

end NodePolicy
