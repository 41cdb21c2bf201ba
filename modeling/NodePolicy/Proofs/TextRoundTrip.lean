import NodePolicy.Config.Document
import NodePolicy.Proofs.Percentages
import NodePolicy.Proofs.RoundTrip
import NodePolicy.Proofs.ValueText

/-!
Configurations read back from their text. What is written for a configuration nests at most six deep
and repeats no name, so a reader follows both forms of it. All that the text can disturb is a
percentage, which comes back as the number that its digits are read as.
-/

namespace NodePolicy

namespace Encode

open Json

structure Kept (depth : Nat) (value : Json) : Prop where
  regular : Regular depth value
  same : value.reread = value

theorem kept_text (depth bytes : Nat) (content : BoundedText bytes) : Kept depth (text content) :=
  ⟨regular_scalar depth _ rfl, rfl⟩

theorem kept_unsigned (depth : Nat) (content : UInt64) : Kept depth (.ofUInt64 content) :=
  ⟨regular_scalar depth _ rfl, rfl⟩

theorem kept_map {α : Type} (depth : Nat) (encode : α → Json)
    (each : ∀ item, Kept depth (encode item)) (items : List α) :
    Kept (depth + 1) (.array (items.map encode)) where
  regular := by
    intro element member
    obtain ⟨item, _, rfl⟩ := List.mem_map.mp member
    exact (each item).regular
  same := by
    rw [reread_array, List.map_map]
    congr 2
    funext item
    exact (each item).same

theorem kept_texts (depth bytes capacity : Nat)
    (contents : BoundedList (BoundedText bytes) capacity) : Kept (depth + 1) (texts contents) :=
  kept_map depth text (kept_text depth bytes) contents.items

theorem kept_object (depth : Nat) (members : List (String × Json))
    (distinct : (members.map Prod.fst).Nodup) (each : ∀ item ∈ members, Kept depth item.2) :
    Kept (depth + 1) (.object members) where
  regular := ⟨distinct, fun item member => (each item member).regular⟩
  same := by
    rw [reread_object]
    congr 1
    rw [map_list_eq_iff]
    intro item member
    exact Prod.ext rfl (each item member).same

theorem kept_device (depth : Nat) (item : Device) : Kept (depth + 2) (device item) := by
  apply kept_object
  · show [Key.name, Key.sharedCount, Key.groups, Key.hostDevices].Nodup
    decide
  · simp only [List.forall_mem_cons]
    exact ⟨kept_text .., kept_unsigned .., kept_texts .., kept_texts .., List.forall_mem_nil _⟩

theorem kept_mount (depth : Nat) (item : Mount) : Kept (depth + 2) (mount item) := by
  apply kept_object
  · show [Key.destination, Key.mountType, Key.source, Key.options].Nodup
    decide
  · simp only [List.forall_mem_cons]
    exact ⟨kept_text .., kept_text .., kept_text .., kept_texts .., List.forall_mem_nil _⟩

theorem kept_host (depth : Nat) (item : Host) : Kept (depth + 1) (host item) := by
  apply kept_object
  · show [Key.address, Key.hostName].Nodup
    decide
  · simp only [List.forall_mem_cons]
    exact ⟨kept_text .., kept_text .., List.forall_mem_nil _⟩

theorem kept_resource (depth : Nat) (item : Resource) : Kept (depth + 4) (resource item) := by
  apply kept_object
  · show [Key.name, Key.groups, Key.mounts, Key.environment, Key.hosts].Nodup
    decide
  · simp only [List.forall_mem_cons]
    exact ⟨kept_text .., kept_texts .., kept_map _ _ (kept_mount depth) _, kept_texts ..,
      kept_map _ _ (kept_host (depth + 1)) _, List.forall_mem_nil _⟩

/-- A reader follows what is written for a content, and gives back what is written for the changed
content. -/
def Rewritten {α : Type} (encode : α → Except ConfigError Json) (change : α → α) (depth : Nat)
    (content : α) : Prop :=
  ∃ value, encode content = .ok value ∧ Regular depth value ∧
    encode (change content) = .ok value.reread

theorem percent_rewritten (depth : Nat) (content : Binary64) (finite : content.isFinite = true) :
    Rewritten Threshold.percent.write Binary64.reread depth content :=
  ⟨.number (.float content finite), dif_pos finite, regular_scalar depth _ rfl,
    dif_pos (content.reread_finite finite)⟩

theorem points_rewritten (depth : Nat) (content : UInt64) :
    Rewritten Threshold.points.write id depth content :=
  ⟨.ofUInt64 content, rfl, regular_scalar depth _ rfl, rfl⟩

theorem optionalMember_names (name : String) (value : Option Json) :
    ((optionalMember name value).map Prod.fst).Sublist [name] := by
  cases value with
  | none => exact List.nil_sublist _
  | some value => exact List.Sublist.refl _

theorem optionalMember_reread (name : String) (value : Option Json) :
    (optionalMember name value).map rereadMember = optionalMember name (value.map reread) := by
  cases value <;> rfl

theorem optionalMember_regular (depth : Nat) (name : String) (value : Option Json)
    (regular : ∀ found ∈ value, Regular depth found) :
    ∀ item ∈ optionalMember name value, Regular depth item.2 := by
  intro item member
  obtain ⟨found, listed, rfl⟩ := List.mem_map.mp member
  exact regular found (Option.mem_toList.mp listed)

theorem ruleMembers_names (timeout : Duration) (least most : Json) :
    ((ruleMembers timeout least most).map Prod.fst).Sublist
      [Key.minTimeout, Key.minThreshold, Key.maxThreshold] := by
  rw [ruleMembers, List.map_append]
  exact (optionalMember_names Key.minTimeout _).append (List.Sublist.refl _)

theorem ruleMembers_reread (timeout : Duration) (least most : Json) :
    (ruleMembers timeout least most).map rereadMember =
      ruleMembers timeout least.reread most.reread := by
  have time : (timeoutText timeout).map reread = timeoutText timeout := by
    rw [timeoutText]
    split <;> rfl
  rw [ruleMembers, List.map_append, optionalMember_reread, time]
  rfl

theorem ruleMembers_regular (depth : Nat) (timeout : Duration) (least most : Json)
    (regularLeast : Regular depth least) (regularMost : Regular depth most) :
    ∀ item ∈ ruleMembers timeout least most, Regular depth item.2 := by
  have time : ∀ found ∈ timeoutText timeout, Regular depth found := by
    intro found present
    rw [timeoutText] at present
    split at present
    · cases present
      exact regular_scalar depth _ rfl
    · cases present
  rw [ruleMembers, List.forall_mem_append]
  refine ⟨optionalMember_regular depth _ _ time, ?_⟩
  simp only [List.forall_mem_cons]
  exact ⟨regularLeast, regularMost, List.forall_mem_nil _⟩

section Rule
variable {α : Type} (threshold : Threshold α) (change : α → α) (depth : Nat)

theorem rule_rewritten (content : Rule α)
    (least : Rewritten threshold.write change depth content.minThreshold)
    (most : Rewritten threshold.write change depth content.maxThreshold) :
    ∃ leastValue mostValue,
      rule threshold content = .ok (ruleMembers content.minTimeout leastValue mostValue) ∧
      (∀ item ∈ ruleMembers content.minTimeout leastValue mostValue, Regular depth item.2) ∧
      rule threshold (content.mapThresholds change) =
        .ok ((ruleMembers content.minTimeout leastValue mostValue).map rereadMember) := by
  obtain ⟨leastValue, writtenLeast, regularLeast, againLeast⟩ := least
  obtain ⟨mostValue, writtenMost, regularMost, againMost⟩ := most
  refine ⟨leastValue, mostValue, rule_members _ _ _ _ writtenLeast writtenMost,
    ruleMembers_regular depth _ _ _ regularLeast regularMost, ?_⟩
  rw [ruleMembers_reread]
  exact rule_members threshold (content.mapThresholds change) _ _ againLeast againMost

theorem optionalRule_rewritten (name : String) (content : Option (Rule α))
    (each : ∀ rule ∈ content.toList,
      Rewritten threshold.write change depth rule.minThreshold ∧
        Rewritten threshold.write change depth rule.maxThreshold) :
    ∃ value : Option Json,
      optionalRule threshold name content = .ok (optionalMember name value) ∧
      (∀ found ∈ value, Regular (depth + 1) found) ∧
      optionalRule threshold name (content.map (Rule.mapThresholds change)) =
        .ok (optionalMember name (value.map reread)) := by
  cases content with
  | none => exact ⟨none, rfl, fun found absent => absurd absent (Option.not_mem_none found), rfl⟩
  | some found =>
      obtain ⟨least, most⟩ := each found (by simp)
      obtain ⟨leastValue, mostValue, written, regular, again⟩ :=
        rule_rewritten threshold change depth found least most
      refine ⟨some (.object (ruleMembers found.minTimeout leastValue mostValue)),
        optionalRule_members threshold name found _ written, ?_, ?_⟩
      · rintro _ ⟨⟩
        exact ⟨(ruleMembers_names ..).nodup (by decide), regular⟩
      · rw [Option.map_some, Option.map_some, reread_object]
        exact optionalRule_members threshold name _ _ again

end Rule

theorem elements_rewritten {α : Type} (encode : α → Except ConfigError Json) (change : α → α)
    (depth index : Nat) (items : List α)
    (each : ∀ item ∈ items, Rewritten encode change depth item) :
    ∃ values, elements encode index items = .ok values ∧
      (∀ value ∈ values, Regular depth value) ∧
      elements encode index (items.map change) = .ok (values.map reread) := by
  induction items generalizing index with
  | nil => exact ⟨[], rfl, List.forall_mem_nil _, rfl⟩
  | cons item rest ih =>
      obtain ⟨value, written, regular, again⟩ := each item List.mem_cons_self
      obtain ⟨values, writtenRest, regularRest, againRest⟩ :=
        ih (index + 1) fun other member => each other (List.mem_cons_of_mem item member)
      exact ⟨value :: values, elements_cons encode index item rest value values written writtenRest,
        List.forall_mem_cons.mpr ⟨regular, regularRest⟩,
        elements_cons encode index (change item) (rest.map change) _ _ again againRest⟩

theorem partitionRule_rewritten (depth : Nat) (partition : PartitionRule)
    (finite : partition.rule.IsFinite) :
    Rewritten partitionRule (PartitionRule.mapPercentages Binary64.reread) (depth + 1)
      partition := by
  obtain ⟨leastValue, mostValue, written, regular, again⟩ :=
    rule_rewritten .percent Binary64.reread depth partition.rule
      (percent_rewritten depth _ finite.minThreshold)
      (percent_rewritten depth _ finite.maxThreshold)
  refine ⟨.object ((Key.name, text partition.name) ::
    ruleMembers partition.rule.minTimeout leastValue mostValue),
    partitionRule_members partition _ written, ⟨?_, ?_⟩, ?_⟩
  · exact ((ruleMembers_names ..).cons_cons Key.name).nodup (by decide)
  · exact List.forall_mem_cons.mpr ⟨regular_scalar depth _ rfl, regular⟩
  · rw [reread_object, List.map_cons]
    exact partitionRule_members (partition.mapPercentages Binary64.reread) _ again

theorem alertMembers_names (ram cpu download upload : Option Json) (partitions : Json) :
    ((alertMembers ram cpu download upload partitions).map Prod.fst).Sublist
      [Key.ram, Key.cpu, Key.download, Key.upload, Key.partitions] := by
  simp only [alertMembers, List.map_append]
  exact ((((optionalMember_names Key.ram ram).append (optionalMember_names Key.cpu cpu)).append
    (optionalMember_names Key.download download)).append
    (optionalMember_names Key.upload upload)).append (List.Sublist.refl _)

theorem alertMembers_reread (ram cpu download upload : Option Json) (partitions : Json) :
    (alertMembers ram cpu download upload partitions).map rereadMember =
      alertMembers (ram.map reread) (cpu.map reread) (download.map reread) (upload.map reread)
        partitions.reread := by
  simp only [alertMembers, List.map_append, optionalMember_reread]
  rfl

theorem alertRules_rewritten (depth : Nat) (rules : AlertRules)
    (finite : ∀ rule ∈ rules.percentRules, rule.IsFinite) :
    Rewritten alertRules (AlertRules.mapPercentages Binary64.reread) (depth + 3) rules := by
  obtain ⟨finiteRam, finiteCpu, finitePartitions⟩ := (rules.forall_percentRules _).mp finite
  have percent : ∀ rule : PercentRule, rule.IsFinite →
      Rewritten Threshold.percent.write Binary64.reread (depth + 1) rule.minThreshold ∧
        Rewritten Threshold.percent.write Binary64.reread (depth + 1) rule.maxThreshold :=
    fun rule finite =>
      ⟨percent_rewritten _ _ finite.minThreshold, percent_rewritten _ _ finite.maxThreshold⟩
  have points : ∀ rule : PointRule,
      Rewritten Threshold.points.write id (depth + 1) rule.minThreshold ∧
        Rewritten Threshold.points.write id (depth + 1) rule.maxThreshold :=
    fun rule => ⟨points_rewritten _ _, points_rewritten _ _⟩
  -- Absolute numbers are read back as they are, so the change of their rules is none.
  have same : ∀ content : Option PointRule, content.map (Rule.mapThresholds id) = content := by
    rintro (_ | content) <;> rfl
  obtain ⟨ram, writtenRam, regularRam, againRam⟩ :=
    optionalRule_rewritten .percent Binary64.reread (depth + 1) Key.ram rules.ram
      fun rule member => percent rule (finiteRam rule member)
  obtain ⟨cpu, writtenCpu, regularCpu, againCpu⟩ :=
    optionalRule_rewritten .percent Binary64.reread (depth + 1) Key.cpu rules.cpu
      fun rule member => percent rule (finiteCpu rule member)
  obtain ⟨download, writtenDownload, regularDownload, againDownload⟩ :=
    optionalRule_rewritten .points id (depth + 1) Key.download rules.download
      fun rule _ => points rule
  obtain ⟨upload, writtenUpload, regularUpload, againUpload⟩ :=
    optionalRule_rewritten .points id (depth + 1) Key.upload rules.upload fun rule _ => points rule
  obtain ⟨partitions, writtenPartitions, regularPartitions, againPartitions⟩ :=
    elements_rewritten partitionRule (PartitionRule.mapPercentages Binary64.reread) (depth + 1) 0
      rules.partitions.items fun partition member =>
        partitionRule_rewritten depth partition (finitePartitions partition member)
  rw [same] at againDownload againUpload
  refine ⟨.object (alertMembers ram cpu download upload (.array partitions)),
    alertRules_members rules ram cpu download upload partitions writtenRam writtenCpu
      writtenDownload writtenUpload writtenPartitions, ⟨?_, ?_⟩, ?_⟩
  · exact (alertMembers_names ..).nodup (by decide)
  · simp only [alertMembers, List.forall_mem_append, List.forall_mem_singleton]
    exact ⟨⟨⟨⟨optionalMember_regular _ _ _ regularRam, optionalMember_regular _ _ _ regularCpu⟩,
      optionalMember_regular _ _ _ regularDownload⟩, optionalMember_regular _ _ _ regularUpload⟩,
      regularPartitions⟩
  · rw [reread_object, alertMembers_reread, reread_array]
    exact alertRules_members (rules.mapPercentages Binary64.reread) _ _ _ _ _ againRam againCpu
      againDownload againUpload againPartitions

theorem optionalAlertRules_rewritten (depth : Nat) (rules : Option AlertRules)
    (finite : ∀ found ∈ rules, ∀ rule ∈ found.percentRules, rule.IsFinite) :
    ∃ value : Option Json,
      optionalAlertRules rules = .ok (optionalMember Key.alertRules value) ∧
      (∀ found ∈ value, Regular (depth + 3) found) ∧
      optionalAlertRules (rules.map (AlertRules.mapPercentages Binary64.reread)) =
        .ok (optionalMember Key.alertRules (value.map reread)) := by
  cases rules with
  | none => exact ⟨none, rfl, fun found absent => absurd absent (Option.not_mem_none found), rfl⟩
  | some found =>
      obtain ⟨value, written, regular, again⟩ := alertRules_rewritten depth found (finite found rfl)
      refine ⟨some value, optionalAlertRules_member found value written, ?_,
        optionalAlertRules_member _ _ again⟩
      rintro _ ⟨⟩
      exact regular

theorem kept_leadingMembers (depth : Nat) (config : Config) :
    ∀ item ∈ leadingMembers config, Kept (depth + 5) item.2 := by
  simp only [leadingMembers, List.forall_mem_cons]
  exact ⟨kept_text .., kept_text .., kept_unsigned .., kept_map _ _ (kept_device (depth + 2)) _,
    kept_map _ _ (kept_resource depth) _, kept_texts .., List.forall_mem_nil _⟩

theorem config_rewritten (depth : Nat) (config : Config) (finite : config.FinitePercentages) :
    Rewritten Config.encode (Config.mapPercentages Binary64.reread) (depth + 6) config := by
  obtain ⟨rules, written, regular, again⟩ :=
    optionalAlertRules_rewritten (depth + 2) config.alertRules finite
  have leading := kept_leadingMembers depth config
  have names : ((leadingMembers config ++ optionalMember Key.alertRules rules).map Prod.fst).Sublist
      [Key.version, Key.nodeType, Key.priority, Key.devices, Key.resources, Key.labels,
        Key.alertRules] := by
    rw [List.map_append]
    exact (List.Sublist.refl _).append (optionalMember_names Key.alertRules rules)
  have same : (leadingMembers config).map rereadMember = leadingMembers config := by
    rw [map_list_eq_iff]
    intro item member
    exact Prod.ext rfl (leading item member).same
  refine ⟨.object (leadingMembers config ++ optionalMember Key.alertRules rules),
    encode_members config rules written, ⟨?_, ?_⟩, ?_⟩
  · exact names.nodup (by decide)
  · rw [List.forall_mem_append]
    exact ⟨fun item member => (leading item member).regular,
      optionalMember_regular _ _ _ regular⟩
  · rw [reread_object, List.map_append, same, optionalMember_reread]
    exact encode_members (config.mapPercentages Binary64.reread) _ again

end Encode

namespace Config

theorem finite_reread (config : Config) (finite : config.FinitePercentages) :
    (config.mapPercentages Binary64.reread).FinitePercentages := by
  intro rules present rule member
  obtain ⟨original, given, rfl⟩ := Option.map_eq_some_iff.mp present
  rw [AlertRules.percentRules_map] at member
  obtain ⟨before, listed, rfl⟩ := List.mem_map.mp member
  obtain ⟨least, most⟩ := finite original given before listed
  exact ⟨before.minThreshold.reread_finite least, before.maxThreshold.reread_finite most⟩

/-- A configuration can be written, a reader follows what is written, and what it reads is decoded
to the configuration with its percentages reread and its times floored. -/
theorem exists_reread (config : Config) (finite : config.FinitePercentages) :
    ∃ value, config.encode = .ok value ∧ Json.Regular Json.Reading.maxDepth value ∧
      decode value.reread = .ok (config.mapPercentages Binary64.reread).floored := by
  -- A reader follows 127 levels, of which a configuration needs six.
  obtain ⟨value, written, regular, again⟩ := Encode.config_rewritten 121 config finite
  obtain ⟨_, same, admitted⟩ :=
    Encode.config_written (config.mapPercentages Binary64.reread) (finite_reread config finite)
  cases again.symm.trans same
  exact ⟨value, written, regular, Decode.decode_admitted _ _ admitted⟩

/-- What is read from the text of a configuration, in either form. -/
theorem ofText_written (config : Config) (finite : config.FinitePercentages) :
    ∃ value, config.encode = .ok value ∧ ∀ layout : Json.Layout,
      ofText (String.ofList (layout.write 0 value)) =
        .ok (config.mapPercentages Binary64.reread).floored := by
  obtain ⟨value, written, regular, decoded⟩ := exists_reread config finite
  refine ⟨value, written, fun layout => ?_⟩
  rw [ofText, Json.read_written layout value regular]
  exact decoded

/-- What is read from the bytes of a configuration's text, with blanks behind it. -/
theorem ofBytes_written (config : Config) (finite : config.FinitePercentages) :
    ∃ value, config.encode = .ok value ∧ ∀ (layout : Json.Layout) (behind : List Char),
      Json.Blank behind → ofBytes (Json.bytes (layout.write 0 value ++ behind)) =
        .ok (config.mapPercentages Binary64.reread).floored := by
  obtain ⟨value, written, regular, decoded⟩ := exists_reread config finite
  refine ⟨value, written, fun layout behind blank => ?_⟩
  rw [ofBytes, Json.readBytes_written layout value regular behind blank]
  exact decoded

theorem toText_ok (config : Config) (value : Json) (written : config.encode = .ok value) :
    config.toText = .ok value.compact := by
  rw [toText, written]
  rfl

theorem toIndentedText_ok (config : Config) (value : Json) (written : config.encode = .ok value) :
    config.toIndentedText = .ok value.indented := by
  rw [toIndentedText, written]
  rfl

theorem floored_map (change : Binary64 → Binary64) (config : Config)
    (nonnegative : ∀ timeout ∈ config.timeouts, 0 ≤ timeout.nanos) :
    (config.mapPercentages change).floored = config.mapPercentages change := by
  rw [floored_eq_iff, timeouts_map]
  exact nonnegative

theorem percentages_finite (config : Config) (finite : config.FinitePercentages) :
    ∀ x ∈ config.percentages, x.isFinite = true := by
  intro x member
  obtain ⟨rules, present, listed⟩ := List.mem_flatMap.mp member
  obtain ⟨rule, ruled, percentage⟩ := List.mem_flatMap.mp listed
  obtain ⟨least, most⟩ := finite rules (Option.mem_toList.mp present) rule ruled
  rw [PercentRule.percentages] at percentage
  rcases List.mem_cons.mp percentage with rfl | last
  · exact least
  · rw [List.mem_singleton.mp last]
    exact most

/-- A configuration with finite percentages and without negative times comes back from either form
of its text with every percentage reread. It comes back as it was exactly when reading gives every
percentage back, as it does for the decimals of up to fifteen digits. -/
theorem ofText_toText (config : Config) (finite : config.FinitePercentages)
    (nonnegative : ∀ timeout ∈ config.timeouts, 0 ≤ timeout.nanos) :
    (∃ text, config.toText = .ok text ∧
        ofText text = .ok (config.mapPercentages Binary64.reread)) ∧
      (∃ text, config.toIndentedText = .ok text ∧
        ofText text = .ok (config.mapPercentages Binary64.reread)) ∧
      (config.mapPercentages Binary64.reread = config ↔
        ∀ x ∈ config.percentages, x.reread = x) ∧
      ∀ x ∈ config.percentages, x.IsShort → x.reread = x := by
  obtain ⟨value, written, read⟩ := ofText_written config finite
  rw [floored_map Binary64.reread config nonnegative] at read
  refine ⟨⟨_, toText_ok config value written, read Json.Layout.compact⟩,
    ⟨_, toIndentedText_ok config value written, read Json.Layout.indented⟩,
    config.mapPercentages_eq_iff Binary64.reread, fun x member short => ?_⟩
  exact x.reread_short (config.percentages_finite finite x member) short

/-- A configuration with one percentage of seventeen digits, 31.245270191439438. -/
def longPercentage : Config :=
  { Config.empty with
    alertRules := some { AlertRules.empty with
      ram := some {
        minTimeout := .zero
        minThreshold := ⟨0x403f3eca06faea82⟩
        maxThreshold := ⟨0x4049000000000000⟩ } } }

theorem longPercentage_finite : longPercentage.FinitePercentages := by decide

theorem longPercentage_nonnegative : ∀ timeout ∈ longPercentage.timeouts, 0 ≤ timeout.nanos := by
  decide

theorem longPercentage_toText :
    longPercentage.FinitePercentages ∧
      (∀ timeout ∈ longPercentage.timeouts, 0 ≤ timeout.nanos) ∧
      (∃ text, longPercentage.toText = .ok text ∧
        ofText text = .ok (longPercentage.mapPercentages Binary64.reread)) ∧
      (∃ text, longPercentage.toIndentedText = .ok text ∧
        ofText text = .ok (longPercentage.mapPercentages Binary64.reread)) ∧
      (longPercentage.mapPercentages Binary64.reread = longPercentage ↔
        ∀ x ∈ longPercentage.percentages, x.reread = x) ∧
      ∀ x ∈ longPercentage.percentages, x.IsShort → x.reread = x :=
  ⟨longPercentage_finite, longPercentage_nonnegative,
    ofText_toText longPercentage longPercentage_finite longPercentage_nonnegative⟩

/-- The digits of the percentage are read as the next larger number. -/
theorem reread_longPercentage :
    (⟨0x403f3eca06faea82⟩ : Binary64).reread = ⟨0x403f3eca06faea83⟩ := by
  decide +kernel

theorem longPercentage_changed :
    longPercentage.mapPercentages Binary64.reread ≠ longPercentage := by
  intro same
  have kept := (longPercentage.mapPercentages_eq_iff Binary64.reread).mp same
    ⟨0x403f3eca06faea82⟩ (by decide)
  rw [reread_longPercentage] at kept
  exact absurd kept (by decide)

/-- Both forms of its text give another configuration back. -/
theorem longPercentage_lost :
    longPercentage.FinitePercentages ∧
      (∀ timeout ∈ longPercentage.timeouts, 0 ≤ timeout.nanos) ∧
      (∃ text found, longPercentage.toText = .ok text ∧ ofText text = .ok found ∧
        found ≠ longPercentage) ∧
      ∃ text found, longPercentage.toIndentedText = .ok text ∧ ofText text = .ok found ∧
        found ≠ longPercentage := by
  obtain ⟨value, written, read⟩ := ofText_written longPercentage longPercentage_finite
  rw [floored_map Binary64.reread longPercentage longPercentage_nonnegative] at read
  exact ⟨longPercentage_finite, longPercentage_nonnegative,
    ⟨_, _, toText_ok longPercentage value written, read Json.Layout.compact,
      longPercentage_changed⟩,
    ⟨_, _, toIndentedText_ok longPercentage value written, read Json.Layout.indented,
      longPercentage_changed⟩⟩

end Config

end NodePolicy
