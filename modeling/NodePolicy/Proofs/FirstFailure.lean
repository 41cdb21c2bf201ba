import NodePolicy.Config.Encode
import NodePolicy.Proofs.Path
import NodePolicy.Proofs.Percentages

/-!
Which percentage an unwritable configuration is refused for. Writing goes through the percentages in
a fixed order and every part of it fails as the percentages in it do, so the error of the whole is
that of the first percentage that is not finite, with the path that leads to it.
-/

namespace NodePolicy

def failure? {ε α : Type} : Except ε α → Option ε
  | .ok _ => none
  | .error cause => some cause

section Sequence
variable {ε α β : Type}

theorem failure_eq_some_iff (result : Except ε α) (cause : ε) :
    failure? result = some cause ↔ result = .error cause := by
  cases result <;> simp [failure?]

/-- What comes after a first part fails in one way, whatever the first part gives. -/
theorem failure_bind (first : Except ε α) (next : α → Except ε β) (later : Option ε)
    (alike : ∀ middle, failure? (next middle) = later) :
    failure? (first >>= next) = (failure? first).or later := by
  cases first with
  | error cause => rfl
  | ok middle => exact alike middle

theorem failure_inside (segment : String) (result : Except ConfigError α) :
    failure? (inside segment result) = (failure? result).map (.within segment) := by
  cases result <;> rfl

end Sequence

/-- A percentage and the segments around it, the outermost first. -/
structure Site where
  segments : List String
  percentage : Binary64

namespace Site

def within (segment : String) (sites : List Site) : List Site :=
  sites.map fun site => { site with segments := segment :: site.segments }

def error (site : Site) : ConfigError :=
  site.segments.foldr .within
    (.failed s!"threshold {Threshold.nonFiniteName site.percentage} is not a finite number")

def unwritable? (sites : List Site) : Option Site :=
  sites.find? fun site => !site.percentage.isFinite

theorem unwritable_append (first second : List Site) :
    unwritable? (first ++ second) = (unwritable? first).or (unwritable? second) :=
  List.find?_append

theorem unwritable_within (segment : String) (sites : List Site) :
    (unwritable? (within segment sites)).map error =
      ((unwritable? sites).map error).map (.within segment) := by
  rw [unwritable?, within, List.find?_map, Option.map_map, Option.map_map]
  rfl

theorem error_segments (site : Site) : site.error.segments = site.segments := by
  obtain ⟨segments, percentage⟩ := site
  induction segments with
  | nil => rfl
  | cons segment rest ih => exact congrArg (List.cons segment) ih

theorem error_kind (site : Site) : site.error.kind = .failed := by
  obtain ⟨segments, percentage⟩ := site
  induction segments with
  | nil => rfl
  | cons segment rest ih => exact ih

end Site

def PercentRule.sites (rule : PercentRule) : List Site :=
  [⟨[Key.minThreshold], rule.minThreshold⟩, ⟨[Key.maxThreshold], rule.maxThreshold⟩]

def PartitionRule.sites : Nat → List PartitionRule → List Site
  | _, [] => []
  | index, partition :: rest =>
    Site.within (ConfigError.element index) (PercentRule.sites partition.rule)
      ++ PartitionRule.sites (index + 1) rest

def AlertRules.sites (rules : AlertRules) : List Site :=
  rules.ram.toList.flatMap (fun rule => Site.within Key.ram (PercentRule.sites rule))
    ++ rules.cpu.toList.flatMap (fun rule => Site.within Key.cpu (PercentRule.sites rule))
    ++ Site.within Key.partitions (PartitionRule.sites 0 rules.partitions.items)

def Config.sites (config : Config) : List Site :=
  config.alertRules.toList.flatMap fun rules => Site.within Key.alertRules rules.sites

namespace Encode

/-- A result that fails as the first of some percentages that cannot be written. -/
def FailsAt {α : Type} (result : Except ConfigError α) (sites : List Site) : Prop :=
  failure? result = (Site.unwritable? sites).map Site.error

section Compose
variable {α β : Type}

theorem failsAt_pure (value : α) : FailsAt (pure value) [] := rfl

theorem failsAt_bind (first : Except ConfigError α) (next : α → Except ConfigError β)
    (before after : List Site) (earlier : FailsAt first before)
    (later : ∀ middle, FailsAt (next middle) after) :
    FailsAt (first >>= next) (before ++ after) := by
  rw [FailsAt, failure_bind first next _ later, earlier, Site.unwritable_append, Option.map_or]

/-- A last step that cannot fail. -/
theorem failsAt_finish (first : Except ConfigError α) (finish : α → β) (sites : List Site)
    (fails : FailsAt first sites) : FailsAt (do return finish (← first)) sites := by
  have whole := failsAt_bind first (fun value => pure (finish value)) sites [] fails
    fun value => failsAt_pure (finish value)
  rwa [List.append_nil] at whole

theorem failsAt_inside (segment : String) (result : Except ConfigError α) (sites : List Site)
    (fails : FailsAt result sites) : FailsAt (inside segment result) (Site.within segment sites) := by
  rw [FailsAt, failure_inside, fails, Site.unwritable_within]

end Compose

theorem percent_failsAt (name : String) (percentage : Binary64) :
    FailsAt (inside name (Threshold.percent.write percentage)) [⟨[name], percentage⟩] := by
  apply failsAt_inside name _ [⟨[], percentage⟩]
  rw [FailsAt, Site.unwritable?, List.find?_singleton]
  by_cases finite : percentage.isFinite = true
  · simp [Threshold.percent, finite, failure?]
  · simp [Threshold.percent, finite, failure?, Site.error]

theorem rule_failsAt (content : PercentRule) :
    FailsAt (rule .percent content) (PercentRule.sites content) := by
  apply failsAt_bind _ _ _ [_] (percent_failsAt Key.minThreshold content.minThreshold)
  intro least
  exact failsAt_finish _ _ [_] (percent_failsAt Key.maxThreshold content.maxThreshold)

theorem pointRule_failsAt (content : PointRule) : FailsAt (rule .points content) [] := rfl

theorem optionalRule_failsAt {α : Type} (threshold : Threshold α) (name : String)
    (content : Option (Rule α)) (sites : Rule α → List Site)
    (fails : ∀ found, FailsAt (rule threshold found) (sites found)) :
    FailsAt (optionalRule threshold name content)
      (content.toList.flatMap fun found => Site.within name (sites found)) := by
  cases content with
  | none => rfl
  | some found =>
      rw [Option.toList_some, List.flatMap_singleton]
      exact failsAt_inside name _ _ (failsAt_finish _ _ _ (fails found))

theorem partitionRule_failsAt (partition : PartitionRule) :
    FailsAt (partitionRule partition) (PercentRule.sites partition.rule) :=
  failsAt_finish _ _ _ (rule_failsAt partition.rule)

theorem partitions_failsAt (index : Nat) (partitions : List PartitionRule) :
    FailsAt (elements partitionRule index partitions) (PartitionRule.sites index partitions) := by
  induction partitions generalizing index with
  | nil => exact failsAt_pure []
  | cons partition rest ih =>
      apply failsAt_bind _ _ _ _ (failsAt_inside _ _ _ (partitionRule_failsAt partition))
      intro first
      exact failsAt_finish _ _ _ (ih (index + 1))

theorem alertRules_failsAt (rules : AlertRules) : FailsAt (alertRules rules) rules.sites := by
  -- The rules for downloads and uploads add no sites, for numbers of points are always written.
  have points (name : String) (content : Option PointRule) :
      FailsAt (optionalRule .points name content) [] := by
    have fails := optionalRule_failsAt .points name content (fun _ => []) pointRule_failsAt
    have none : (content.toList.flatMap fun _ => Site.within name []) = [] := by
      cases content <;> rfl
    rwa [none] at fails
  rw [AlertRules.sites, List.append_assoc]
  apply failsAt_bind _ _ _ _ (optionalRule_failsAt .percent Key.ram rules.ram _ rule_failsAt)
  intro ram
  apply failsAt_bind _ _ _ _ (optionalRule_failsAt .percent Key.cpu rules.cpu _ rule_failsAt)
  intro cpu
  apply failsAt_bind _ _ [] _ (points Key.download rules.download)
  intro download
  apply failsAt_bind _ _ [] _ (points Key.upload rules.upload)
  intro upload
  apply failsAt_finish
  exact failsAt_inside Key.partitions _ _ (partitions_failsAt 0 rules.partitions.items)

theorem config_failsAt (config : Config) : FailsAt config.encode config.sites := by
  have members : FailsAt (optionalAlertRules config.alertRules) config.sites := by
    rw [Config.sites]
    cases config.alertRules with
    | none => rfl
    | some rules =>
        rw [Option.toList_some, List.flatMap_singleton]
        exact failsAt_inside Key.alertRules _ _ (failsAt_finish _ _ _ (alertRules_failsAt rules))
  exact failsAt_finish _ _ _ (failsAt_finish _ _ _ members)

end Encode

namespace ConfigError

theorem joinSegment_index (path : String) (index : Nat) :
    joinSegment path (element index) = path ++ element index := by
  have bracketed : (element index).startsWith "[" = true := by
    have chars : (element index).toList = '[' :: (Text.naturalDigits index ++ [']']) :=
      Path.segment_chars (.element index)
    rw [String.startsWith_string_iff, chars]
    exact List.cons_prefix_cons.mpr ⟨rfl, List.nil_prefix⟩
  rw [joinSegment, bracketed, Bool.or_true, if_pos rfl]

theorem joinSegment_name (path name : String) (some : path ≠ "")
    (plain : name.startsWith "[" = false) : joinSegment path name = path ++ "." ++ name := by
  have filled : path.isEmpty = false := by simp [some]
  rw [joinSegment, filled, plain, Bool.or_false, if_neg Bool.false_ne_true]

end ConfigError

def Site.placed (outer : List String) (site : Site) : String × Binary64 :=
  ((outer ++ site.segments).foldl ConfigError.joinSegment "", site.percentage)

def PercentRule.placed (path : String) (rule : PercentRule) : List (String × Binary64) :=
  [(path ++ ".minThreshold", rule.minThreshold), (path ++ ".maxThreshold", rule.maxThreshold)]

def AlertRules.placed (rules : AlertRules) : List (String × Binary64) :=
  rules.ram.toList.flatMap (PercentRule.placed "alertRules.ram")
    ++ rules.cpu.toList.flatMap (PercentRule.placed "alertRules.cpu")
    ++ rules.partitions.items.zipIdx.flatMap fun (partition, index) =>
      PercentRule.placed s!"alertRules.partitions[{index}]" partition.rule

/-- The percentages of a configuration, each with its path: memory first, the processor next, and
then the partitions one by one. -/
def Config.placedPercentages (config : Config) : List (String × Binary64) :=
  config.alertRules.toList.flatMap AlertRules.placed

namespace Site

theorem placed_within (outer : List String) (segment : String) (sites : List Site) :
    (within segment sites).map (placed outer) = sites.map (placed (outer ++ [segment])) := by
  rw [within, List.map_map]
  apply List.map_congr_left
  intro site _
  simp [placed]

theorem placed_rule (outer : List String) (path : String) (some : path ≠ "")
    (joined : outer.foldl ConfigError.joinSegment "" = path) (rule : PercentRule) :
    (PercentRule.sites rule).map (placed outer) = PercentRule.placed path rule := by
  have least : ConfigError.joinSegment path Key.minThreshold = path ++ ".minThreshold" := by
    rw [ConfigError.joinSegment_name path _ some (by decide +kernel), String.append_assoc]
    rfl
  have most : ConfigError.joinSegment path Key.maxThreshold = path ++ ".maxThreshold" := by
    rw [ConfigError.joinSegment_name path _ some (by decide +kernel), String.append_assoc]
    rfl
  simp only [PercentRule.sites, List.map_cons, List.map_nil, placed, List.foldl_append, joined,
    List.foldl_cons, List.foldl_nil, least, most, PercentRule.placed]

theorem placed_partitions (index : Nat) (partitions : List PartitionRule) :
    (PartitionRule.sites index partitions).map (placed [Key.alertRules, Key.partitions]) =
      (partitions.zipIdx index).flatMap fun (partition, index) =>
        PercentRule.placed s!"alertRules.partitions[{index}]" partition.rule := by
  induction partitions generalizing index with
  | nil => rfl
  | cons partition rest ih =>
      have listed : [Key.alertRules, Key.partitions].foldl ConfigError.joinSegment "" =
          "alertRules.partitions" := by decide +kernel
      have joined : ([Key.alertRules, Key.partitions] ++ [ConfigError.element index]).foldl
          ConfigError.joinSegment "" = s!"alertRules.partitions[{index}]" := by
        rw [List.foldl_append, listed, List.foldl_cons, List.foldl_nil,
          ConfigError.joinSegment_index]
        rfl
      have named : s!"alertRules.partitions[{index}]" ≠ "" := by simp
      rw [PartitionRule.sites, List.map_append, placed_within, placed_rule _ _ named joined, ih]
      rfl

theorem placed_alertRules (rules : AlertRules) :
    rules.sites.map (placed [Key.alertRules]) = rules.placed := by
  have ram := placed_rule [Key.alertRules, Key.ram] "alertRules.ram" (by decide) (by decide +kernel)
  have cpu := placed_rule [Key.alertRules, Key.cpu] "alertRules.cpu" (by decide) (by decide +kernel)
  simp only [AlertRules.sites, AlertRules.placed, List.map_append, List.map_flatMap, placed_within,
    List.cons_append, List.nil_append, ram, cpu, placed_partitions]

theorem placed_config (config : Config) :
    config.sites.map (placed []) = config.placedPercentages := by
  simp only [Config.sites, Config.placedPercentages, List.map_flatMap, placed_within,
    List.nil_append, placed_alertRules]

theorem error_path (site : Site) (filled : (site.placed []).1 ≠ "") :
    site.error.fieldPath? = some (site.placed []).1 := by
  have path : (site.placed []).1 = site.segments.foldl ConfigError.joinSegment "" := rfl
  rw [ConfigError.fieldPath?, error_segments, ← path, if_neg (by simpa using filled)]

end Site

def Binary64.Unwritable (x : Binary64) : Prop :=
  x.isNaN = true ∨ x.magnitudeBits = Binary64.infinityBits

theorem Binary64.unwritable_iff (x : Binary64) : x.Unwritable ↔ x.isFinite = false := by
  rw [Unwritable, isNaN, isFinite, decide_eq_true_iff, decide_eq_false_iff_not]
  omega

theorem PercentRule.placed_filled (path : String) (rule : PercentRule) :
    ∀ place ∈ PercentRule.placed path rule, place.1 ≠ "" := by
  simp [PercentRule.placed]

namespace Config

theorem placed_filled (config : Config) : ∀ place ∈ config.placedPercentages, place.1 ≠ "" := by
  intro place member
  simp only [placedPercentages, AlertRules.placed, List.mem_flatMap, List.mem_append] at member
  obtain ⟨_, _, (⟨rule, _, listed⟩ | ⟨rule, _, listed⟩) | ⟨⟨partition, index⟩, _, listed⟩⟩ := member
  · exact PercentRule.placed_filled _ rule place listed
  · exact PercentRule.placed_filled _ rule place listed
  · exact PercentRule.placed_filled _ partition.rule place listed

theorem percentages_indexed (items : List PartitionRule) :
    (items.zipIdx.flatMap fun item => PercentRule.percentages item.1.rule) =
      (items.map PartitionRule.rule).flatMap PercentRule.percentages := by
  have each : items = items.zipIdx.map Prod.fst := (List.zipIdx_map_fst 0 items).symm
  rw [List.flatMap_map]
  nth_rewrite 2 [each]
  rw [List.flatMap_map]

theorem placed_percentages (config : Config) :
    config.placedPercentages.map Prod.snd = config.percentages := by
  have each (path : String) (rule : PercentRule) :
      (PercentRule.placed path rule).map Prod.snd = PercentRule.percentages rule := rfl
  simp only [placedPercentages, AlertRules.placed, percentages, AlertRules.percentRules,
    List.map_flatMap, List.map_append, List.flatMap_append, each, percentages_indexed]

/-- The first percentage that cannot be written is the one the configuration is refused for. -/
theorem failure_encode (config : Config) :
    match config.placedPercentages.find? fun place => !place.2.isFinite with
    | none => ∃ value, config.encode = .ok value
    | some (path, _) => ∃ error, config.encode = .error error ∧ error.kind = .failed ∧
        error.fieldPath? = some path := by
  have fails := Encode.config_failsAt config
  rw [Encode.FailsAt] at fails
  rw [← Site.placed_config, List.find?_map]
  show match (Site.unwritable? config.sites).map (Site.placed []) with
    | none => _
    | some (path, _) => _
  cases found : Site.unwritable? config.sites with
  | none =>
      rw [found] at fails
      cases written : config.encode with
      | ok value => exact ⟨value, rfl⟩
      | error cause =>
          rw [written] at fails
          cases fails
  | some site =>
      rw [found, Option.map_some, failure_eq_some_iff] at fails
      -- An error has a path because no percentage stands in the document itself.
      have member : site.placed [] ∈ config.placedPercentages := by
        rw [← Site.placed_config]
        exact List.mem_map_of_mem (List.mem_of_find?_eq_some found)
      exact ⟨site.error, fails, site.error_kind,
        site.error_path (config.placed_filled _ member)⟩

theorem exists_unwritable_iff (config : Config) :
    (∃ percentage ∈ config.percentages, percentage.isFinite = false) ↔
      ∃ rules, config.alertRules = some rules ∧ ∃ rule : PercentRule,
        (rules.ram = some rule ∨ rules.cpu = some rule ∨
          ∃ partition ∈ rules.partitions.items, partition.rule = rule) ∧
        (rule.minThreshold.Unwritable ∨ rule.maxThreshold.Unwritable) := by
  simp only [Binary64.unwritable_iff, percentages, PercentRule.percentages, AlertRules.percentRules,
    List.mem_flatMap, Option.mem_toList, List.mem_append, List.mem_map, List.mem_cons,
    List.not_mem_nil, or_false, or_assoc]
  constructor
  · rintro ⟨_, ⟨rules, present, rule, listed, rfl | rfl⟩, infinite⟩
    · exact ⟨rules, present, rule, listed, Or.inl infinite⟩
    · exact ⟨rules, present, rule, listed, Or.inr infinite⟩
  · rintro ⟨rules, present, rule, listed, infinite | infinite⟩
    · exact ⟨_, ⟨rules, present, rule, listed, Or.inl rfl⟩, infinite⟩
    · exact ⟨_, ⟨rules, present, rule, listed, Or.inr rfl⟩, infinite⟩

theorem encode_error_iff (config : Config) :
    (∃ error, config.encode = .error error) ↔
      ∃ percentage ∈ config.percentages, percentage.isFinite = false := by
  have outcome := failure_encode config
  rw [← placed_percentages]
  cases found : config.placedPercentages.find? fun place => !place.2.isFinite with
  | none =>
      rw [found] at outcome
      obtain ⟨value, written⟩ := outcome
      have finite := List.find?_eq_none.mp found
      constructor
      · rintro ⟨error, refused⟩
        cases written.symm.trans refused
      · rintro ⟨_, member, infinite⟩
        obtain ⟨place, listed, rfl⟩ := List.mem_map.mp member
        exact absurd (by simp [infinite]) (finite place listed)
  | some place =>
      rw [found] at outcome
      obtain ⟨error, refused, _⟩ := outcome
      have infinite := List.find?_some found
      exact iff_of_true ⟨error, refused⟩ ⟨place.2,
        List.mem_map_of_mem (List.mem_of_find?_eq_some found), by simpa using infinite⟩

/-- Writing is refused exactly for a percentage of memory, of the processor or of a partition that
is not finite. The error has the path of the first one in the order of writing, and no device,
resource or label and no rule for downloads or uploads changes whether and how writing fails. -/
theorem encode_refuses_first (config : Config) :
    ((∃ error, config.encode = .error error) ↔
      ∃ rules, config.alertRules = some rules ∧ ∃ rule : PercentRule,
        (rules.ram = some rule ∨ rules.cpu = some rule ∨
          ∃ partition ∈ rules.partitions.items, partition.rule = rule) ∧
        (rule.minThreshold.Unwritable ∨ rule.maxThreshold.Unwritable)) ∧
      (match config.placedPercentages.find? fun place => !place.2.isFinite with
        | none => ∃ value, config.encode = .ok value
        | some (path, _) => ∃ error, config.encode = .error error ∧ error.kind = .failed ∧
            error.fieldPath? = some path) ∧
      ∀ devices resources labels download upload,
        failure? (Config.encode { config with
          devices, resources, labels
          alertRules := config.alertRules.map fun rules => { rules with download, upload } }) =
            failure? config.encode := by
  refine ⟨(encode_error_iff config).trans (exists_unwritable_iff config), failure_encode config, ?_⟩
  intro devices resources labels download upload
  rw [Encode.config_failsAt, Encode.config_failsAt, sites, sites]
  cases config.alertRules <;> rfl

end Config

end NodePolicy
