import NodePolicy.Config.Encode
import NodePolicy.Proofs.Accepted
import NodePolicy.Proofs.Floored
import NodePolicy.Proofs.Iso8601
import NodePolicy.Proofs.LetterCase

/-!
What was written is read back. Every written value is admitted by the schema for the content it was
written from, with the times floored, and what the schema admits is decoded. The objects that are
written use the names of the library only, so a lookup in them is one by spelling.
-/

namespace NodePolicy.Encode

open Schema

def OwnNames (members : List (String × Json)) : Prop := ∀ item ∈ members, item.1 ∈ Key.all

def optionalMember (name : String) (value : Option Json) : List (String × Json) :=
  value.toList.map (name, ·)

theorem own_append (first second : List (String × Json)) (ownFirst : OwnNames first)
    (ownSecond : OwnNames second) : OwnNames (first ++ second) := by
  intro item member
  rcases List.mem_append.mp member with earlier | later
  · exact ownFirst item earlier
  · exact ownSecond item later

theorem own_optionalMember (name : String) (value : Option Json) (own : name ∈ Key.all) :
    OwnNames (optionalMember name value) := by
  intro item member
  obtain ⟨_, _, rfl⟩ := List.mem_map.mp member
  exact own

section Member
variable {α : Type} {means : Json → α → Prop} {members : List (String × Json)} {name : String}

theorem required_of_lookup (own : OwnNames members) (asked : name ∈ Key.all) (member : Json)
    (found : members.lookup name = some member) (content : α) (meant : means member content) :
    Required means (.object members) name content :=
  ⟨member, (member_of_own_names members name own asked).trans found, meant⟩

theorem defaulting_of_missing (own : OwnNames members) (asked : name ∈ Key.all)
    (missing : members.lookup name = none) (default : α) :
    Defaulting means default (.object members) name default :=
  Or.inr ⟨(member_of_own_names members name own asked).trans missing, rfl⟩

theorem defaulting_of_lookup (own : OwnNames members) (asked : name ∈ Key.all) (member : Json)
    (found : members.lookup name = some member) (default content : α)
    (meant : means member content) :
    Defaulting means default (.object members) name content :=
  Or.inl (required_of_lookup own asked member found content meant)

theorem defaulting_of_rel (own : OwnNames members) (asked : name ∈ Key.all) (value : Option Json)
    (found : members.lookup name = value) (content : Option α)
    (related : Option.Rel means value content) :
    Defaulting (Present means) none (.object members) name content := by
  cases related with
  | some meant => exact defaulting_of_lookup own asked _ found none _ ⟨_, meant, rfl⟩
  | none => exact defaulting_of_missing own asked found none

theorem lookup_optionalMember (asked : String) (value : Option Json) :
    (optionalMember name value).lookup asked = if asked = name then value else none := by
  cases value with
  | none => simp [optionalMember]
  | some value =>
      by_cases same : asked = name
      · simp [optionalMember, same]
      · simp [optionalMember, List.lookup_cons, same, beq_false_of_ne same]

end Member

theorem isArray_map {α : Type} {capacity : Nat} (means : Json → α → Prop) (encode : α → Json)
    (each : ∀ item, means (encode item) item) (list : BoundedList α capacity) :
    IsArray means (.array (list.items.map encode)) list := by
  refine ⟨_, rfl, ?_⟩
  rw [List.forall₂_map_left_iff, List.forall₂_same]
  intro item _
  exact each item

theorem isArray_texts {bytes capacity : Nat} (list : BoundedList (BoundedText bytes) capacity) :
    IsArray IsText (texts list) list :=
  isArray_map IsText text (fun _ => rfl) list

theorem device_admitted (item : Device) : IsDevice (device item) item := by
  have own : OwnNames (device item).members := by
    simp [OwnNames, Json.members, device, Key.all]
  exact {
    object := rfl
    name := required_of_lookup own (by decide) _ rfl _ rfl
    sharedCount := required_of_lookup own (by decide) _ rfl _ rfl
    groups := defaulting_of_lookup own (by decide) _ rfl _ _ (isArray_texts _)
    hostDevices := defaulting_of_lookup own (by decide) _ rfl _ _ (isArray_texts _) }

theorem mount_admitted (item : Mount) : IsMount (mount item) item := by
  have own : OwnNames (mount item).members := by
    simp [OwnNames, Json.members, mount, Key.all]
  exact {
    object := rfl
    destination := required_of_lookup own (by decide) _ rfl _ rfl
    mountType := required_of_lookup own (by decide) _ rfl _ rfl
    source := required_of_lookup own (by decide) _ rfl _ rfl
    options := defaulting_of_lookup own (by decide) _ rfl _ _ (isArray_texts _) }

theorem host_admitted (item : Host) : IsHost (host item) item := by
  have own : OwnNames (host item).members := by
    simp [OwnNames, Json.members, host, Key.all]
  exact {
    object := rfl
    address := required_of_lookup own (by decide) _ rfl _ rfl
    hostName := required_of_lookup own (by decide) _ rfl _ rfl }

theorem resource_admitted (item : Resource) : IsResource (resource item) item := by
  have own : OwnNames (resource item).members := by
    simp [OwnNames, Json.members, resource, Key.all]
  exact {
    object := rfl
    name := required_of_lookup own (by decide) _ rfl _ rfl
    groups := defaulting_of_lookup own (by decide) _ rfl _ _ (isArray_texts _)
    mounts := defaulting_of_lookup own (by decide) _ rfl _ _ (isArray_map _ _ mount_admitted _)
    environment := defaulting_of_lookup own (by decide) _ rfl _ _ (isArray_texts _)
    hosts := defaulting_of_lookup own (by decide) _ rfl _ _ (isArray_map _ _ host_admitted _) }

/-- The thresholds of a kind that can be written, each with what is written for it. -/
def Writes {α : Type} (threshold : Threshold α) (isThreshold : Json → α → Prop) (content : α) :
    Prop :=
  ∃ value, threshold.write content = .ok value ∧ isThreshold value content

theorem percent_writes (content : Binary64) (finite : content.isFinite = true) :
    Writes .percent IsPercentage content := by
  refine ⟨.number (.float content finite), ?_, _, rfl, rfl⟩
  rw [Threshold.percent]
  exact dif_pos finite

theorem points_writes (content : UInt64) : Writes .points IsUnsigned content := ⟨_, rfl, rfl⟩

/-- The written time of a rule; none is written when it is not positive. -/
def timeoutText (timeout : Duration) : Option Json :=
  if timeout.isPositive then some (.string (Duration.Iso8601.write timeout)) else none

theorem timeout_admitted (members : List (String × Json)) (own : OwnNames members)
    (timeout : Duration) (found : members.lookup Key.minTimeout = timeoutText timeout) :
    Defaulting IsTime .zero (.object members) Key.minTimeout timeout.floored := by
  by_cases positive : timeout.isPositive = true
  · rw [timeoutText, if_pos positive] at found
    -- A written time is positive, so it is not the one duration that its text does not give back.
    have reaches : timeout.nanos ≠ -9223372036854775808 := by
      rw [Duration.isPositive, decide_eq_true_iff] at positive
      omega
    rw [Duration.floored_of_positive timeout positive]
    exact defaulting_of_lookup own (by decide) _ found _ _
      ⟨_, rfl, Duration.Iso8601.read_write timeout reaches⟩
  · rw [timeoutText, if_neg positive] at found
    rw [Duration.floored_of_not_positive timeout positive]
    exact defaulting_of_missing own (by decide) found _

def ruleMembers (timeout : Duration) (least most : Json) : List (String × Json) :=
  optionalMember Key.minTimeout (timeoutText timeout)
    ++ [(Key.minThreshold, least), (Key.maxThreshold, most)]

theorem rule_members {α : Type} (threshold : Threshold α) (content : Rule α) (least most : Json)
    (writtenLeast : threshold.write content.minThreshold = .ok least)
    (writtenMost : threshold.write content.maxThreshold = .ok most) :
    rule threshold content = .ok (ruleMembers content.minTimeout least most) := by
  simp only [rule, bind_ok_iff, inside_ok_iff, pure_ok_iff]
  refine ⟨least, writtenLeast, most, writtenMost, ?_⟩
  rw [ruleMembers, timeoutText, optionalMember]
  split <;> rfl

theorem partitionRule_members (partition : PartitionRule) (members : List (String × Json))
    (written : rule .percent partition.rule = .ok members) :
    partitionRule partition = .ok (.object ((Key.name, text partition.name) :: members)) := by
  simp only [partitionRule, bind_ok_iff, pure_ok_iff]
  exact ⟨members, written, rfl⟩

theorem optionalRule_members {α : Type} (threshold : Threshold α) (name : String)
    (content : Rule α) (members : List (String × Json))
    (written : rule threshold content = .ok members) :
    optionalRule threshold name (some content) =
      .ok (optionalMember name (some (.object members))) := by
  simp only [optionalRule, inside_ok_iff, bind_ok_iff, pure_ok_iff]
  exact ⟨members, written, rfl⟩

theorem elements_cons {α : Type} (encode : α → Except ConfigError Json) (index : Nat) (item : α)
    (rest : List α) (value : Json) (values : List Json) (written : encode item = .ok value)
    (later : elements encode (index + 1) rest = .ok values) :
    elements encode index (item :: rest) = .ok (value :: values) := by
  simp only [elements, bind_ok_iff, inside_ok_iff, pure_ok_iff]
  exact ⟨value, written, values, later, rfl⟩

theorem rule_written {α : Type} (threshold : Threshold α) (isThreshold : Json → α → Prop)
    (content : Rule α) (writesLeast : Writes threshold isThreshold content.minThreshold)
    (writesMost : Writes threshold isThreshold content.maxThreshold) :
    ∃ least most, rule threshold content = .ok (ruleMembers content.minTimeout least most) ∧
      isThreshold least content.minThreshold ∧ isThreshold most content.maxThreshold := by
  obtain ⟨least, writtenLeast, meantLeast⟩ := writesLeast
  obtain ⟨most, writtenMost, meantMost⟩ := writesMost
  exact ⟨least, most, rule_members threshold content least most writtenLeast writtenMost,
    meantLeast, meantMost⟩

theorem ruleMembers_own (timeout : Duration) (least most : Json) :
    OwnNames (ruleMembers timeout least most) := by
  apply own_append _ _ (own_optionalMember Key.minTimeout _ (by decide))
  simp [OwnNames, Key.all]

theorem rule_admitted {α : Type} (isThreshold : Json → α → Prop) (content : Rule α)
    (least most : Json) (meantLeast : isThreshold least content.minThreshold)
    (meantMost : isThreshold most content.maxThreshold) (before : List (String × Json))
    (own : OwnNames before)
    (apart : ∀ name ∈ [Key.minTimeout, Key.minThreshold, Key.maxThreshold],
      before.lookup name = none) :
    IsRule isThreshold (.object (before ++ ruleMembers content.minTimeout least most))
      content.floored := by
  have ownAll : OwnNames (before ++ ruleMembers content.minTimeout least most) :=
    own_append _ _ own (ruleMembers_own _ least most)
  -- Other members in front of those of a rule do not hide them.
  have found : ∀ name ∈ [Key.minTimeout, Key.minThreshold, Key.maxThreshold],
      (before ++ ruleMembers content.minTimeout least most).lookup name =
        (if name = Key.minTimeout then timeoutText content.minTimeout else none).or
          ([(Key.minThreshold, least), (Key.maxThreshold, most)].lookup name) := by
    intro name member
    rw [List.lookup_append, apart name member, Option.none_or, ruleMembers, List.lookup_append,
      lookup_optionalMember]
  exact {
    object := rfl
    minTimeout := by
      apply timeout_admitted _ ownAll
      rw [found _ (by decide), if_pos rfl]
      exact Option.or_none
    minThreshold := by
      apply required_of_lookup ownAll (by decide) least _ _ meantLeast
      rw [found _ (by decide), if_neg (by decide)]
      rfl
    maxThreshold := by
      apply required_of_lookup ownAll (by decide) most _ _ meantMost
      rw [found _ (by decide), if_neg (by decide)]
      rfl }

theorem partitionRule_written (partition : PartitionRule)
    (finite : partition.rule.IsFinite) :
    ∃ value, partitionRule partition = .ok value ∧ IsPartitionRule value partition.floored := by
  obtain ⟨least, most, written, meantLeast, meantMost⟩ :=
    rule_written .percent IsPercentage partition.rule (percent_writes _ finite.minThreshold)
      (percent_writes _ finite.maxThreshold)
  have own : OwnNames [(Key.name, text partition.name)] := by simp [OwnNames, Key.all]
  have ruled := rule_admitted IsPercentage partition.rule least most meantLeast meantMost
    [(Key.name, text partition.name)] own (by
      simp [List.lookup_cons, Key.name, Key.minTimeout, Key.minThreshold, Key.maxThreshold])
  exact ⟨_, partitionRule_members partition _ written,
    required_of_lookup (own_append _ _ own (ruleMembers_own _ least most)) (by decide) _ rfl _ rfl,
    ruled⟩

theorem optionalRule_written {α : Type} (threshold : Threshold α) (isThreshold : Json → α → Prop)
    (name : String) (content : Option (Rule α))
    (writes : ∀ rule ∈ content.toList, Writes threshold isThreshold rule.minThreshold ∧
      Writes threshold isThreshold rule.maxThreshold) :
    ∃ value, optionalRule threshold name content = .ok (optionalMember name value) ∧
      Option.Rel (IsRule isThreshold) value (content.map Rule.floored) := by
  cases content with
  | none => exact ⟨none, rfl, Option.Rel.none⟩
  | some found =>
      obtain ⟨writesLeast, writesMost⟩ := writes found (by simp)
      obtain ⟨least, most, written, meantLeast, meantMost⟩ :=
        rule_written threshold isThreshold found writesLeast writesMost
      have ruled := rule_admitted isThreshold found least most meantLeast meantMost []
        (by simp [OwnNames]) (by simp)
      exact ⟨some (.object (ruleMembers found.minTimeout least most)),
        optionalRule_members threshold name found _ written, Option.Rel.some ruled⟩

theorem elements_written {α β : Type} (encode : α → Except ConfigError Json)
    (means : Json → β → Prop) (change : α → β) (index : Nat) (items : List α)
    (each : ∀ item ∈ items, ∃ value, encode item = .ok value ∧ means value (change item)) :
    ∃ values, elements encode index items = .ok values ∧
      List.Forall₂ means values (items.map change) := by
  induction items generalizing index with
  | nil => exact ⟨[], rfl, List.Forall₂.nil⟩
  | cons item rest ih =>
      obtain ⟨value, written, meant⟩ := each item List.mem_cons_self
      obtain ⟨values, later, related⟩ :=
        ih (index + 1) fun other member => each other (List.mem_cons_of_mem item member)
      exact ⟨value :: values, elements_cons encode index item rest value values written later,
        List.Forall₂.cons meant related⟩

theorem partitions_written (partitions : BoundedList PartitionRule Limits.partitions)
    (finite : ∀ partition ∈ partitions.items, partition.rule.IsFinite) :
    ∃ values, elements partitionRule 0 partitions.items = .ok values ∧
      IsArray IsPartitionRule (.array values) (partitions.map PartitionRule.floored) := by
  obtain ⟨values, written, related⟩ := elements_written partitionRule IsPartitionRule
    PartitionRule.floored 0 partitions.items fun partition member =>
      partitionRule_written partition (finite partition member)
  exact ⟨values, written, values, rfl, related⟩

def alertMembers (ram cpu download upload : Option Json) (partitions : Json) :
    List (String × Json) :=
  optionalMember Key.ram ram ++ optionalMember Key.cpu cpu ++ optionalMember Key.download download
    ++ optionalMember Key.upload upload ++ [(Key.partitions, partitions)]

theorem alertRules_members (rules : AlertRules) (ram cpu download upload : Option Json)
    (partitions : List Json)
    (writtenRam : optionalRule .percent Key.ram rules.ram = .ok (optionalMember Key.ram ram))
    (writtenCpu : optionalRule .percent Key.cpu rules.cpu = .ok (optionalMember Key.cpu cpu))
    (writtenDownload : optionalRule .points Key.download rules.download =
      .ok (optionalMember Key.download download))
    (writtenUpload : optionalRule .points Key.upload rules.upload =
      .ok (optionalMember Key.upload upload))
    (writtenPartitions : elements partitionRule 0 rules.partitions.items = .ok partitions) :
    alertRules rules =
      .ok (.object (alertMembers ram cpu download upload (.array partitions))) := by
  simp only [alertRules, bind_ok_iff, inside_ok_iff, pure_ok_iff]
  exact ⟨_, writtenRam, _, writtenCpu, _, writtenDownload, _, writtenUpload, _,
    writtenPartitions, rfl⟩

theorem optionalAlertRules_member (rules : AlertRules) (value : Json)
    (written : alertRules rules = .ok value) :
    optionalAlertRules (some rules) = .ok (optionalMember Key.alertRules (some value)) := by
  simp only [optionalAlertRules, inside_ok_iff, bind_ok_iff, pure_ok_iff]
  exact ⟨value, written, rfl⟩

theorem encode_members (config : Config) (rules : Option Json)
    (written : optionalAlertRules config.alertRules = .ok (optionalMember Key.alertRules rules)) :
    config.encode =
      .ok (.object (leadingMembers config ++ optionalMember Key.alertRules rules)) := by
  simp only [Config.encode, Config.encodeMembers, bind_ok_iff, pure_ok_iff]
  exact ⟨_, ⟨_, written, rfl⟩, rfl⟩

theorem alertMembers_own (ram cpu download upload : Option Json) (partitions : Json) :
    OwnNames (alertMembers ram cpu download upload partitions) := by
  have last : OwnNames [(Key.partitions, partitions)] := by simp [OwnNames, Key.all]
  exact own_append _ _ (own_append _ _ (own_append _ _ (own_append _ _
    (own_optionalMember Key.ram ram (by decide)) (own_optionalMember Key.cpu cpu (by decide)))
    (own_optionalMember Key.download download (by decide)))
    (own_optionalMember Key.upload upload (by decide))) last

theorem alertMembers_lookup (ram cpu download upload : Option Json) (partitions : Json) :
    let members := alertMembers ram cpu download upload partitions
    members.lookup Key.ram = ram ∧ members.lookup Key.cpu = cpu ∧
      members.lookup Key.download = download ∧ members.lookup Key.upload = upload ∧
      members.lookup Key.partitions = some partitions := by
  simp [alertMembers, List.lookup_append, lookup_optionalMember, List.lookup_cons, Key.ram, Key.cpu,
    Key.download, Key.upload, Key.partitions]

theorem alertRules_written (rules : AlertRules)
    (finite : ∀ rule ∈ rules.percentRules, rule.IsFinite) :
    ∃ value, alertRules rules = .ok value ∧ IsAlertRules value rules.floored := by
  obtain ⟨finiteRam, finiteCpu, finitePartitions⟩ := (rules.forall_percentRules _).mp finite
  have percent : ∀ rule : PercentRule, rule.IsFinite →
      Writes .percent IsPercentage rule.minThreshold ∧
        Writes .percent IsPercentage rule.maxThreshold := fun rule finite =>
    ⟨percent_writes _ finite.minThreshold, percent_writes _ finite.maxThreshold⟩
  have points : ∀ rule : PointRule, Writes .points IsUnsigned rule.minThreshold ∧
      Writes .points IsUnsigned rule.maxThreshold := fun rule =>
    ⟨points_writes _, points_writes _⟩
  obtain ⟨ram, writtenRam, meantRam⟩ := optionalRule_written .percent IsPercentage Key.ram rules.ram
    fun rule member => percent rule (finiteRam rule member)
  obtain ⟨cpu, writtenCpu, meantCpu⟩ := optionalRule_written .percent IsPercentage Key.cpu rules.cpu
    fun rule member => percent rule (finiteCpu rule member)
  obtain ⟨download, writtenDownload, meantDownload⟩ :=
    optionalRule_written .points IsUnsigned Key.download rules.download fun rule _ => points rule
  obtain ⟨upload, writtenUpload, meantUpload⟩ :=
    optionalRule_written .points IsUnsigned Key.upload rules.upload fun rule _ => points rule
  obtain ⟨partitions, writtenPartitions, meantPartitions⟩ :=
    partitions_written rules.partitions finitePartitions
  have own := alertMembers_own ram cpu download upload (.array partitions)
  obtain ⟨foundRam, foundCpu, foundDownload, foundUpload, foundPartitions⟩ :=
    alertMembers_lookup ram cpu download upload (.array partitions)
  refine ⟨.object (alertMembers ram cpu download upload (.array partitions)),
    alertRules_members rules ram cpu download upload partitions writtenRam writtenCpu
      writtenDownload writtenUpload writtenPartitions, ?_⟩
  exact {
    object := rfl
    ram := defaulting_of_rel own (by decide) ram foundRam _ meantRam
    cpu := defaulting_of_rel own (by decide) cpu foundCpu _ meantCpu
    partitions := defaulting_of_lookup own (by decide) _ foundPartitions _ _ meantPartitions
    download := defaulting_of_rel own (by decide) download foundDownload _ meantDownload
    upload := defaulting_of_rel own (by decide) upload foundUpload _ meantUpload }

theorem optionalAlertRules_written (rules : Option AlertRules)
    (finite : ∀ found ∈ rules, ∀ rule ∈ found.percentRules, rule.IsFinite) :
    ∃ value, optionalAlertRules rules = .ok (optionalMember Key.alertRules value) ∧
      Option.Rel IsAlertRules value (rules.map AlertRules.floored) := by
  cases rules with
  | none => exact ⟨none, rfl, Option.Rel.none⟩
  | some found =>
      obtain ⟨value, written, meant⟩ := alertRules_written found (finite found rfl)
      exact ⟨some value, optionalAlertRules_member found value written, Option.Rel.some meant⟩

theorem leadingMembers_own (config : Config) : OwnNames (leadingMembers config) := by
  simp [OwnNames, leadingMembers, Key.all]

theorem document_admitted (config : Config) (rules : Option Json)
    (related : Option.Rel IsAlertRules rules (config.alertRules.map AlertRules.floored)) :
    IsConfig (.object (leadingMembers config ++ optionalMember Key.alertRules rules))
      config.floored := by
  have own := own_append _ _ (leadingMembers_own config)
    (own_optionalMember Key.alertRules rules (by decide))
  have found : (leadingMembers config ++ optionalMember Key.alertRules rules).lookup
      Key.alertRules = rules := by
    have apart : (leadingMembers config).lookup Key.alertRules = none := rfl
    rw [List.lookup_append, apart, Option.none_or, lookup_optionalMember, if_pos rfl]
  exact {
    object := rfl
    version := required_of_lookup own (by decide) _ rfl _ rfl
    nodeType := required_of_lookup own (by decide) _ rfl _ rfl
    priority := required_of_lookup own (by decide) _ rfl _ ⟨_, rfl, rfl⟩
    devices := defaulting_of_lookup own (by decide) _ rfl _ _ (isArray_map _ _ device_admitted _)
    resources :=
      defaulting_of_lookup own (by decide) _ rfl _ _ (isArray_map _ _ resource_admitted _)
    labels := defaulting_of_lookup own (by decide) _ rfl _ _ (isArray_texts _)
    alertRules := defaulting_of_rel own (by decide) rules found _ related }

theorem config_written (config : Config) (finite : config.FinitePercentages) :
    ∃ value, config.encode = .ok value ∧ IsConfig value config.floored := by
  obtain ⟨rules, written, related⟩ := optionalAlertRules_written config.alertRules finite
  exact ⟨_, encode_members config rules written, document_admitted config rules related⟩

/-- A configuration with finite percentages comes back from its document with every negative time
set to zero and without any other change. -/
theorem decode_encode (config : Config) (finite : config.FinitePercentages) :
    (∃ value, config.encode = .ok value ∧ Config.decode value = .ok config.floored) ∧
      (config.floored = config ↔ ∀ timeout ∈ config.timeouts, 0 ≤ timeout.nanos) := by
  obtain ⟨value, written, admitted⟩ := config_written config finite
  have decoded := Decode.decode_admitted value config.floored admitted
  exact ⟨⟨value, written, decoded⟩, config.floored_eq_iff⟩

/-- A configuration with a negative time at one rule and a positive one at another. -/
def mixedTimes : Config :=
  { Config.empty with
    alertRules := some { AlertRules.empty with
      ram := some {
        minTimeout := ⟨-1, by decide, by decide⟩
        minThreshold := ⟨0x4054000000000000⟩
        maxThreshold := ⟨0x4056800000000000⟩ }
      upload := some {
        minTimeout := ⟨1, by decide, by decide⟩
        minThreshold := 1
        maxThreshold := 2 } } }

theorem mixedTimes_decode_encode :
    mixedTimes.FinitePercentages ∧
      (∃ value, mixedTimes.encode = .ok value ∧ Config.decode value = .ok mixedTimes.floored) ∧
      (mixedTimes.floored = mixedTimes ↔
        ∀ timeout ∈ mixedTimes.timeouts, 0 ≤ timeout.nanos) := by
  have finite : mixedTimes.FinitePercentages := by decide
  exact ⟨finite, decode_encode mixedTimes finite⟩

end NodePolicy.Encode
