import NodePolicy.Proofs.TextRoundTrip

/-!
Configurations that can be written are those whose percentages are all finite. Their compact and
their indented text are read as one and the same configuration, in which every percentage is the
number that its own text is read as, every negative time is zero, and all else is as it was written.
-/

namespace NodePolicy

namespace Encode

theorem percent_finite (content : Binary64) (value : Json)
    (written : Threshold.percent.write content = .ok value) : content.isFinite = true := by
  by_contra infinite
  have refused : Threshold.percent.write content = .error _ := dif_neg infinite
  cases refused.symm.trans written

theorem rule_finite (content : PercentRule) (members : List (String × Json))
    (written : rule .percent content = .ok members) :
    content.IsFinite := by
  simp only [rule, bind_ok_iff, inside_ok_iff] at written
  obtain ⟨least, writtenLeast, most, writtenMost, _⟩ := written
  exact ⟨percent_finite _ least writtenLeast, percent_finite _ most writtenMost⟩

theorem optionalRule_finite (name : String) (content : Option PercentRule)
    (members : List (String × Json)) (written : optionalRule .percent name content = .ok members) :
    ∀ found ∈ content.toList, found.IsFinite := by
  intro found present
  rw [Option.mem_toList.mp present] at written
  simp only [optionalRule, inside_ok_iff, bind_ok_iff] at written
  obtain ⟨ruleMembers, writtenRule, _⟩ := written
  exact rule_finite found ruleMembers writtenRule

theorem partitionRule_finite (partition : PartitionRule) (value : Json)
    (written : partitionRule partition = .ok value) :
    partition.rule.IsFinite := by
  simp only [partitionRule, bind_ok_iff] at written
  obtain ⟨members, writtenRule, _⟩ := written
  exact rule_finite partition.rule members writtenRule

theorem elements_each {α : Type} (encode : α → Except ConfigError Json) (index : Nat)
    (items : List α) (values : List Json) (written : elements encode index items = .ok values) :
    ∀ item ∈ items, ∃ value, encode item = .ok value := by
  induction items generalizing index values with
  | nil => simp
  | cons item rest ih =>
      simp only [elements, bind_ok_iff, inside_ok_iff] at written
      obtain ⟨value, writtenItem, others, writtenRest, _⟩ := written
      exact List.forall_mem_cons.mpr ⟨⟨value, writtenItem⟩, ih (index + 1) others writtenRest⟩

theorem alertRules_finite (rules : AlertRules) (value : Json)
    (written : alertRules rules = .ok value) :
    ∀ rule ∈ rules.percentRules, rule.IsFinite := by
  simp only [alertRules, bind_ok_iff, inside_ok_iff] at written
  obtain ⟨ram, writtenRam, cpu, writtenCpu, _, _, _, _, partitions, writtenPartitions, _⟩ := written
  rw [AlertRules.forall_percentRules]
  refine ⟨optionalRule_finite Key.ram rules.ram ram writtenRam,
    optionalRule_finite Key.cpu rules.cpu cpu writtenCpu, fun partition member => ?_⟩
  obtain ⟨element, writtenElement⟩ :=
    elements_each partitionRule 0 rules.partitions.items partitions writtenPartitions partition
      member
  exact partitionRule_finite partition element writtenElement

theorem config_finite (config : Config) (value : Json) (written : config.encode = .ok value) :
    config.FinitePercentages := by
  intro rules present
  simp only [Config.encode, Config.encodeMembers, bind_ok_iff] at written
  obtain ⟨_, ⟨_, writtenRules, _⟩, _⟩ := written
  rw [Option.mem_def.mp present] at writtenRules
  simp only [optionalAlertRules, inside_ok_iff, bind_ok_iff] at writtenRules
  obtain ⟨rulesValue, writtenValue, _⟩ := writtenRules
  exact alertRules_finite rules rulesValue writtenValue

end Encode

namespace Config

/-- A configuration can be written exactly when all its percentages are finite. -/
theorem encode_ok_iff (config : Config) :
    (∃ value, config.encode = .ok value) ↔ config.FinitePercentages := by
  constructor
  · rintro ⟨value, written⟩
    exact Encode.config_finite config value written
  · intro finite
    obtain ⟨value, written, _⟩ := exists_reread config finite
    exact ⟨value, written⟩

/-- A percentage is read from its text alone as it is read inside of a document. -/
theorem read_percentage (x : Binary64) (finite : x.isFinite = true) :
    ∃ number, Json.read (String.ofList (Json.writeFloat x)) = .ok (.number number) ∧
      number.toBinary64 = x.reread :=
  ⟨.float x.reread (x.reread_finite finite),
    Json.read_written .compact (.number (.float x finite)) (Json.regular_scalar _ _ rfl), rfl⟩

/-- Every configuration that can be written is read from its compact and from its indented text as
one configuration. That is the written one with every percentage replaced by the number that its
own text stands for, and with zero in the place of every negative time. -/
theorem ofText_both_forms (config : Config) (value : Json) (written : config.encode = .ok value) :
    (∃ compact indented again, config.toText = .ok compact ∧
        config.toIndentedText = .ok indented ∧ ofText compact = .ok again ∧
        ofText indented = .ok again ∧
        again = (config.mapPercentages Binary64.reread).floored) ∧
      ∀ x ∈ config.percentages, ∃ number,
        Json.read (String.ofList (Json.writeFloat x)) = .ok (.number number) ∧
          number.toBinary64 = x.reread := by
  have finite := Encode.config_finite config value written
  obtain ⟨_, same, read⟩ := ofText_written config finite
  cases written.symm.trans same
  refine ⟨⟨_, _, _, toText_ok config value written, toIndentedText_ok config value written,
    read Json.Layout.compact, read Json.Layout.indented, rfl⟩, fun x member => ?_⟩
  exact read_percentage x (config.percentages_finite finite x member)

/-- A configuration with a percentage that its text disturbs and with a time that is negative, and
with a quote, a backslash, a line end and a letter of two bytes in one of its texts. -/
def disturbed : Config :=
  { longPercentage with
    version := ⟨"\"\\\nµ", by decide⟩
    alertRules := longPercentage.alertRules.map fun rules =>
      { rules with
        upload := some {
          minTimeout := ⟨-2, by decide, by decide⟩
          minThreshold := 1
          maxThreshold := 18446744073709551615 } } }

theorem disturbed_finite : disturbed.FinitePercentages := by decide

theorem disturbed_both_forms :
    ∃ value, disturbed.encode = .ok value ∧
      (∃ compact indented again, disturbed.toText = .ok compact ∧
        disturbed.toIndentedText = .ok indented ∧ ofText compact = .ok again ∧
        ofText indented = .ok again ∧
        again = (disturbed.mapPercentages Binary64.reread).floored) ∧
      ∀ x ∈ disturbed.percentages, ∃ number,
        Json.read (String.ofList (Json.writeFloat x)) = .ok (.number number) ∧
          number.toBinary64 = x.reread := by
  obtain ⟨value, written⟩ := (encode_ok_iff disturbed).mpr disturbed_finite
  exact ⟨value, written, ofText_both_forms disturbed value written⟩

end Config

end NodePolicy
