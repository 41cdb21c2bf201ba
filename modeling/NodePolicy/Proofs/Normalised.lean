import NodePolicy.Proofs.Arithmetic
import NodePolicy.Proofs.RoundTrip

/-!
Writing what was read. Every number of a document is finite, so a configuration that was read can be
written. Writing leaves out the times that flooring changes, so a configuration and its floored form
have one document, and writing what comes back from it gives that document again.
-/

namespace NodePolicy

theorem Number.isFinite_toBinary64 (number : Number) : number.toBinary64.isFinite = true := by
  cases number with
  | natural value =>
      apply Binary64.ofRatio_whole_finite
      have word := value.toNat_lt
      omega
  | negative value below =>
      apply Binary64.ofRatio_whole_finite
      have least := value.le_toInt
      have negative : value.toInt < 0 := Int64.lt_iff_toInt_lt.mp below
      omega
  | float value finite => exact finite

namespace Schema

section Member
variable {α : Type} {means : Json → α → Prop} {value : Json} {name : String}

theorem exists_member (content : Option α)
    (found : Defaulting (Present means) none value name content) :
    ∀ item ∈ content, ∃ member, means member item := by
  intro item present
  rcases found with ⟨member, _, meant, same, rfl⟩ | ⟨_, rfl⟩
  · cases present
    exact ⟨member, same⟩
  · cases present

theorem exists_element {capacity : Nat} (content : BoundedList α capacity)
    (found : Defaulting (IsArray means) .empty value name content) :
    ∀ item ∈ content.items, ∃ element, means element item := by
  rcases found with ⟨_, _, elements, -, related⟩ | ⟨_, rfl⟩
  · generalize content.items = items at related ⊢
    induction related with
    | nil => simp
    | cons meant _ ih =>
        intro item member
        rcases List.mem_cons.mp member with rfl | later
        · exact ⟨_, meant⟩
        · exact ih item later
  · intro item member
    cases member

end Member

theorem finite_of_isRule (value : Json) (rule : PercentRule) (meant : IsRule IsPercentage value rule) :
    rule.IsFinite := by
  obtain ⟨_, _, least, _, leastSame⟩ := meant.minThreshold
  obtain ⟨_, _, most, _, mostSame⟩ := meant.maxThreshold
  refine ⟨?_, ?_⟩
  · rw [← leastSame]
    exact least.isFinite_toBinary64
  · rw [← mostSame]
    exact most.isFinite_toBinary64

theorem finite_of_isAlertRules (value : Json) (rules : AlertRules)
    (meant : IsAlertRules value rules) :
    ∀ rule ∈ rules.percentRules, rule.IsFinite := by
  rw [AlertRules.forall_percentRules]
  refine ⟨?_, ?_, ?_⟩
  · intro rule ram
    obtain ⟨found, ruled⟩ := exists_member rules.ram meant.ram rule (Option.mem_toList.mp ram)
    exact finite_of_isRule found rule ruled
  · intro rule cpu
    obtain ⟨found, ruled⟩ := exists_member rules.cpu meant.cpu rule (Option.mem_toList.mp cpu)
    exact finite_of_isRule found rule ruled
  · intro partition listed
    obtain ⟨found, ruled⟩ := exists_element rules.partitions meant.partitions partition listed
    exact finite_of_isRule found partition.rule ruled.rule

/-- A configuration that stands in a document can be written. -/
theorem finite_of_isConfig (value : Json) (config : Config) (meant : IsConfig value config) :
    config.FinitePercentages := by
  intro rules present
  obtain ⟨found, ruled⟩ := exists_member config.alertRules meant.alertRules rules present
  exact finite_of_isAlertRules found rules ruled

end Schema

namespace Encode

theorem rule_floored {α : Type} (threshold : Threshold α) (content : Rule α) :
    rule threshold content.floored = rule threshold content := by
  by_cases positive : content.minTimeout.isPositive = true
  · rw [Rule.floored, Duration.floored_of_positive _ positive]
  · have zero : ¬ Duration.zero.isPositive = true := by decide
    rw [Rule.floored, Duration.floored_of_not_positive _ positive]
    simp only [rule, if_neg positive, if_neg zero]

theorem partitionRule_floored (partition : PartitionRule) :
    partitionRule partition.floored = partitionRule partition := by
  simp only [partitionRule, PartitionRule.floored, rule_floored]

theorem optionalRule_floored {α : Type} (threshold : Threshold α) (name : String)
    (content : Option (Rule α)) :
    optionalRule threshold name (content.map Rule.floored) = optionalRule threshold name content := by
  cases content with
  | none => rfl
  | some found => simp only [optionalRule, Option.map_some, rule_floored]

theorem elements_map {α : Type} (encode : α → Except ConfigError Json) (change : α → α)
    (unseen : ∀ item, encode (change item) = encode item) (index : Nat) (items : List α) :
    elements encode index (items.map change) = elements encode index items := by
  induction items generalizing index with
  | nil => rfl
  | cons item rest ih => simp only [List.map_cons, elements, unseen, ih]

theorem alertRules_floored (rules : AlertRules) : alertRules rules.floored = alertRules rules := by
  simp only [alertRules, AlertRules.floored, optionalRule_floored, BoundedList.map,
    elements_map partitionRule PartitionRule.floored partitionRule_floored]

theorem optionalAlertRules_floored (rules : Option AlertRules) :
    optionalAlertRules (rules.map AlertRules.floored) = optionalAlertRules rules := by
  cases rules with
  | none => rfl
  | some found => simp only [optionalAlertRules, Option.map_some, alertRules_floored]

theorem encode_floored (config : Config) : config.floored.encode = config.encode := by
  simp only [Config.encode, Config.encodeMembers, Config.floored, optionalAlertRules_floored]
  rfl

end Encode

namespace Decode

open Schema

theorem exists_rewritten (value : Json) (config : Config)
    (decoded : Config.decode value = .ok config) :
    ∃ document, config.encode = .ok document ∧ Config.decode document = .ok config.floored := by
  have finite := finite_of_isConfig value config (admitted_of_decode value config decoded)
  obtain ⟨document, written, admitted⟩ := Encode.config_written config finite
  exact ⟨document, written, decode_admitted document config.floored admitted⟩

/-- A configuration that was read comes back from its own document, apart from its negative times:
these are not written, and come back as zero. -/
theorem decode_rewritten (value : Json) (config : Config)
    (decoded : Config.decode value = .ok config) :
    (∃ document, config.encode = .ok document ∧ Config.decode document = .ok config.floored) ∧
      (config.floored = config ↔ ∀ timeout ∈ config.timeouts, 0 ≤ timeout.nanos) :=
  ⟨exists_rewritten value config decoded, config.floored_eq_iff⟩

/-- A document whose only rule has a negative time. -/
def negativeTime : Json :=
  .object
    [ (Key.version, .string "1"),
      (Key.nodeType, .string "main"),
      (Key.priority, .ofUInt64 1),
      (Key.alertRules, .object
        [ (Key.ram, .object
            [ (Key.minTimeout, .string "-PT5S"),
              (Key.minThreshold, .ofUInt64 80),
              (Key.maxThreshold, .ofUInt64 90) ]) ]) ]

def negativeTimeConfig : Config :=
  { Config.empty with
    version := ⟨"1", by decide⟩
    nodeType := ⟨"main", by decide⟩
    priority := 1
    alertRules := some { AlertRules.empty with
      ram := some {
        minTimeout := ⟨-5000000000, by decide, by decide⟩
        minThreshold := ⟨0x4054000000000000⟩
        maxThreshold := ⟨0x4056800000000000⟩ } } }

theorem decode_negativeTime : Config.decode negativeTime = .ok negativeTimeConfig :=
  (toOption_eq_some_iff _ _).mp (by decide +kernel)

theorem negativeTime_rewritten :
    Config.decode negativeTime = .ok negativeTimeConfig ∧
      (∃ document, negativeTimeConfig.encode = .ok document ∧
        Config.decode document = .ok negativeTimeConfig.floored) ∧
      (negativeTimeConfig.floored = negativeTimeConfig ↔
        ∀ timeout ∈ negativeTimeConfig.timeouts, 0 ≤ timeout.nanos) :=
  ⟨decode_negativeTime, decode_rewritten negativeTime negativeTimeConfig decode_negativeTime⟩

theorem negativeTime_lost :
    ¬ ∀ value config, Config.decode value = .ok config →
      ∃ document, config.encode = .ok document ∧ Config.decode document = .ok config := by
  intro lossless
  obtain ⟨document, written, kept⟩ := lossless negativeTime negativeTimeConfig decode_negativeTime
  obtain ⟨_, writtenSame, reread⟩ :=
    exists_rewritten negativeTime negativeTimeConfig decode_negativeTime
  cases written.symm.trans writtenSame
  cases kept.symm.trans reread

/-- Writing a configuration that was read never fails, and what is written is a fixed point: read
and written again, it is the same value in every member. -/
theorem rewritten_fixed (value : Json) (config : Config)
    (decoded : Config.decode value = .ok config) :
    ∃ document, config.encode = .ok document ∧
      ∃ again, Config.decode document = .ok again ∧ again.encode = .ok document := by
  obtain ⟨document, written, reread⟩ := exists_rewritten value config decoded
  exact ⟨document, written, config.floored, reread, (Encode.encode_floored config).trans written⟩

theorem negativeTime_fixed :
    Config.decode negativeTime = .ok negativeTimeConfig ∧
      ∃ document, negativeTimeConfig.encode = .ok document ∧
        ∃ again, Config.decode document = .ok again ∧ again.encode = .ok document :=
  ⟨decode_negativeTime, rewritten_fixed negativeTime negativeTimeConfig decode_negativeTime⟩

end Decode

end NodePolicy
