import NodePolicy.Config.Decode
import NodePolicy.Proofs.Outcome
import NodePolicy.Proofs.Schema

/-!
The decoder accepts exactly the documents of the schema. Each part of the decoder has one
equivalence between its success and the relation it decides, so that the order in which members are
read, and the error of the first one that fails, are gone from there on. Arrays are an induction
over the elements still to come, from the list that has been found so far.
-/

namespace NodePolicy.Decode

open Schema

theorem get_ok_iff (value : Json) (name : String) (member : Json) :
    (Record.ofValue value).get name = .ok member ↔ value.member? name = some member := by
  rw [Record.get, Json.member?]
  cases (Record.ofValue value).get? name <;> simp

theorem getShaped_ok_iff {α : Type} (value : Json) (shape : Shape α) (name : String) (content : α) :
    (Record.ofValue value).getShaped shape name = .ok content ↔
      Required (fun member found => shape.read? member = some found) value name content := by
  rw [Record.getShaped, bind_ok_iff]
  simp only [get_ok_iff, extract_ok_iff]
  rfl

theorem getOptional_ok_iff {α : Type} (value : Json) (shape : Shape α) (name : String)
    (content : Option α) :
    (Record.ofValue value).getOptional shape name = .ok content ↔
      Defaulting (Present fun member found => shape.read? member = some found) none value name
        content := by
  rw [Record.getOptional]
  cases looked : value.member? name with
  | none =>
      have missing : (Record.ofValue value).get? name = none := looked
      simp [missing, Defaulting, Required, looked, eq_comm]
  | some member =>
      have found : (Record.ofValue value).get? name = some member := looked
      simp [found, Defaulting, Required, Present, looked, map_ok_iff, extract_ok_iff,
        @eq_comm _ content]

theorem shaped_ok_iff {α : Type} (value : Json) (shape : Shape α) (name : String) (content : α)
    (means : Json → α → Prop)
    (agrees : ∀ member found, shape.read? member = some found ↔ means member found) :
    shaped (.ofValue value) shape name = .ok content ↔ Required means value name content := by
  rw [shaped, inside_ok_iff, mapError_ok_iff, getShaped_ok_iff]
  simp only [Required, agrees]

theorem text_read_iff (member : Json) (found : String) :
    Shape.text.read? member = some found ↔ member = .string found := by
  cases member <;> simp [Shape.text]

theorem unsigned_read_iff (member : Json) (found : UInt64) :
    Shape.unsigned.read? member = some found ↔ IsUnsigned member found := by
  cases member with
  | number number => cases number <;> simp [Shape.unsigned, IsUnsigned]
  | null => simp [Shape.unsigned, IsUnsigned]
  | boolean _ => simp [Shape.unsigned, IsUnsigned]
  | string _ => simp [Shape.unsigned, IsUnsigned]
  | array _ => simp [Shape.unsigned, IsUnsigned]
  | object _ => simp [Shape.unsigned, IsUnsigned]

theorem number_read_iff (member : Json) (found : Binary64) :
    Shape.number.read? member = some found ↔ IsPercentage member found := by
  cases member <;> simp [Shape.number, IsPercentage]

theorem unsigned32_read_natural (number : UInt64) (found : UInt32) :
    Shape.unsigned32.read? (.number (.natural number)) = some found ↔
      number.toNat = found.toNat := by
  -- A wider integer is refused, not cut to its last 32 bits.
  simp only [Shape.unsigned32]
  constructor
  · intro read
    split at read
    · next narrow =>
        cases read
        rw [UInt64.toNat_toUInt32, Nat.mod_eq_of_lt narrow]
    · cases read
  · intro same
    have narrow : number.toNat < UInt32.size := same ▸ found.toNat_lt
    rw [if_pos narrow]
    apply congrArg some
    apply UInt32.toNat_inj.mp
    rw [UInt64.toNat_toUInt32, Nat.mod_eq_of_lt narrow, same]

theorem unsigned32_read_iff (member : Json) (found : UInt32) :
    Shape.unsigned32.read? member = some found ↔ IsUnsigned32 member found := by
  constructor
  · intro read
    cases member with
    | number number =>
        cases number with
        | natural number => exact ⟨number, rfl, (unsigned32_read_natural number found).mp read⟩
        | negative _ _ => cases read
        | float _ _ => cases read
    | null => cases read
    | boolean _ => cases read
    | string _ => cases read
    | array _ => cases read
    | object _ => cases read
  · rintro ⟨number, rfl, same⟩
    exact (unsigned32_read_natural number found).mpr same

theorem text_ok_iff {bytes : Nat} (value : Json) (name : String) (content : BoundedText bytes) :
    text (.ofValue value) name = .ok content ↔ Required IsText value name content := by
  rw [text, inside_ok_iff, bind_ok_iff]
  simp only [mapError_ok_iff, getShaped_ok_iff, ofText_ok_iff, Required, text_read_iff]
  constructor
  · rintro ⟨found, ⟨member, looked, rfl⟩, rfl⟩
    exact ⟨_, looked, rfl⟩
  · rintro ⟨member, looked, rfl⟩
    exact ⟨content.text, ⟨_, looked, rfl⟩, rfl⟩

section Array
variable {α : Type} {capacity : Nat}

/-- A step that adds one item for its element, and nothing else. -/
def Appends (means : Json → α → Prop)
    (step : BoundedList α capacity → Nat → Json → Except ConfigError (BoundedList α capacity)) :
    Prop :=
  ∀ found index element next, step found index element = .ok next ↔
    ∃ item, means element item ∧ next.items = found.items ++ [item]

variable {means : Json → α → Prop}
  {step : BoundedList α capacity → Nat → Json → Except ConfigError (BoundedList α capacity)}

theorem foldElements_ok_iff (appends : Appends means step) (index : Nat)
    (found content : BoundedList α capacity) (elements : List Json) :
    Record.foldElements step index found elements = .ok content ↔
      ∃ items, List.Forall₂ means elements items ∧ content.items = found.items ++ items := by
  induction elements generalizing index found with
  | nil =>
      rw [Record.foldElements]
      constructor
      · intro same
        cases same
        exact ⟨[], List.Forall₂.nil, (List.append_nil _).symm⟩
      · rintro ⟨items, related, same⟩
        cases related
        rw [List.append_nil] at same
        exact congrArg Except.ok (BoundedList.ext found content same.symm)
  | cons element rest ih =>
      rw [Record.foldElements, bind_ok_iff]
      constructor
      · rintro ⟨next, stepped, ran⟩
        obtain ⟨item, head, grown⟩ := (appends found index element next).mp stepped
        obtain ⟨items, tail, same⟩ := (ih (index + 1) next).mp ran
        refine ⟨item :: items, List.Forall₂.cons head tail, ?_⟩
        rw [same, grown, List.append_assoc]
        rfl
      · rintro ⟨_, related, same⟩
        cases related with
        | @cons _ item _ items head tail =>
            -- The list in between fits because the whole content does.
            have fits : (found.items ++ [item]).length ≤ capacity := by
              have whole := content.fits
              rw [same, List.length_append, List.length_cons] at whole
              rw [List.length_append, List.length_singleton]
              omega
            refine ⟨⟨found.items ++ [item], fits⟩,
              (appends found index element _).mpr ⟨item, head, rfl⟩,
              (ih (index + 1) _).mpr ⟨items, tail, ?_⟩⟩
            rw [same, List.append_assoc]
            rfl

theorem getElements_ok_iff (value : Json) (name : String) (elements : List Json) :
    (Record.ofValue value).getElements name = .ok elements ↔
      value.member? name = some (.array elements) ∨
        (value.member? name = none ∧ elements = []) := by
  rw [Record.getElements, Json.member?]
  cases (Record.ofValue value).get? name with
  | none => simp [eq_comm]
  | some member => cases member <;> simp [Json.elements?]

theorem foldArray_ok_iff (appends : Appends means step) (value : Json) (name : String)
    (content : BoundedList α capacity) :
    (Record.ofValue value).foldArray name .field .empty step = .ok content ↔
      Defaulting (IsArray means) .empty value name content := by
  rw [Record.foldArray, bind_ok_iff]
  simp only [mapError_ok_iff, getElements_ok_iff, foldElements_ok_iff appends]
  constructor
  · rintro ⟨elements, present | ⟨missing, rfl⟩, items, related, same⟩
    · cases same
      exact Or.inl ⟨_, present, elements, rfl, related⟩
    · cases related
      exact Or.inr ⟨missing, BoundedList.ext _ _ same⟩
  · rintro (⟨_, present, elements, rfl, related⟩ | ⟨missing, rfl⟩)
    · exact ⟨elements, Or.inl present, content.items, related, rfl⟩
    · exact ⟨[], Or.inr ⟨missing, rfl⟩, [], List.Forall₂.nil, rfl⟩

end Array

theorem texts_ok_iff {bytes capacity : Nat} (value : Json) (name : String)
    (content : BoundedList (BoundedText bytes) capacity) :
    texts (.ofValue value) name = .ok content ↔
      Defaulting (IsArray IsText) .empty value name content := by
  rw [texts, inside_ok_iff]
  apply foldArray_ok_iff
  intro found index element next
  rw [inside_ok_iff, bind_ok_iff]
  simp only [mapError_ok_iff, extract_ok_iff, text_read_iff, pushText_ok_iff]
  constructor
  · rintro ⟨_, rfl, item, rfl, grown⟩
    exact ⟨item, rfl, grown⟩
  · rintro ⟨item, rfl, grown⟩
    exact ⟨item.text, rfl, item, rfl, grown⟩

def Decides {α : Type} (means : Json → α → Prop) (decode : Record → Except ConfigError α) : Prop :=
  ∀ value content,
    (value.isObject = true ∧ decode (.ofValue value) = .ok content) ↔ means value content

theorem objects_ok_iff {α : Type} {capacity : Nat} (means : Json → α → Prop)
    (decode : Record → Except ConfigError α) (decides : Decides means decode) (value : Json)
    (name : String) (content : BoundedList α capacity) :
    objects (.ofValue value) name decode = .ok content ↔
      Defaulting (IsArray means) .empty value name content := by
  rw [objects, inside_ok_iff]
  apply foldArray_ok_iff
  intro found index element next
  rw [inside_ok_iff, bind_ok_iff]
  simp only [bind_ok_iff, mapError_ok_iff, ofObject_ok_iff, push_ok_iff]
  constructor
  · rintro ⟨_, ⟨object, rfl⟩, item, decoded, grown⟩
    exact ⟨item, (decides element item).mp ⟨object, decoded⟩, grown⟩
  · rintro ⟨item, meant, grown⟩
    obtain ⟨object, decoded⟩ := (decides element item).mpr meant
    exact ⟨_, ⟨object, rfl⟩, item, decoded, grown⟩

theorem optionalObject_ok_iff {α : Type} (means : Json → α → Prop)
    (decode : Record → Except ConfigError α) (decides : Decides means decode) (value : Json)
    (name : String) (content : Option α) :
    optionalObject (.ofValue value) name decode = .ok content ↔
      Defaulting (Present means) none value name content := by
  rw [optionalObject, Record.has]
  cases looked : value.member? name with
  | none =>
      have missing : (Record.ofValue value).get? name = none := looked
      simp [missing, Defaulting, Required, looked, eq_comm]
  | some member =>
      have found : (Record.ofValue value).get? name = some member := looked
      rw [found, Option.isSome_some, if_pos rfl, inside_ok_iff, bind_ok_iff]
      simp only [bind_ok_iff, mapError_ok_iff, Record.getObject, get_ok_iff, ofObject_ok_iff,
        pure_ok_iff]
      constructor
      · rintro ⟨_, ⟨_, same, object, rfl⟩, item, decoded, rfl⟩
        exact Or.inl ⟨_, same, item, (decides _ item).mp ⟨object, decoded⟩, rfl⟩
      · rintro (⟨_, same, item, meant, rfl⟩ | ⟨missing, _⟩)
        · obtain ⟨object, decoded⟩ := (decides _ item).mpr meant
          exact ⟨_, ⟨_, same, object, rfl⟩, item, decoded, rfl⟩
        · rw [looked] at missing
          cases missing

theorem device_decides : Decides IsDevice device := by
  intro value content
  simp only [device, bind_ok_iff, pure_ok_iff, text_ok_iff, texts_ok_iff,
    shaped_ok_iff value .unsigned _ _ IsUnsigned unsigned_read_iff]
  constructor
  · rintro ⟨object, _, name, _, sharedCount, _, groups, _, hostDevices, rfl⟩
    exact ⟨object, name, sharedCount, groups, hostDevices⟩
  · rintro ⟨object, name, sharedCount, groups, hostDevices⟩
    exact ⟨object, _, name, _, sharedCount, _, groups, _, hostDevices, rfl⟩

theorem mount_decides : Decides IsMount mount := by
  intro value content
  simp only [mount, bind_ok_iff, pure_ok_iff, text_ok_iff, texts_ok_iff]
  constructor
  · rintro ⟨object, _, destination, _, mountType, _, source, _, options, rfl⟩
    exact ⟨object, destination, mountType, source, options⟩
  · rintro ⟨object, destination, mountType, source, options⟩
    exact ⟨object, _, destination, _, mountType, _, source, _, options, rfl⟩

theorem host_decides : Decides IsHost host := by
  intro value content
  simp only [host, bind_ok_iff, pure_ok_iff, text_ok_iff]
  constructor
  · rintro ⟨object, _, address, _, hostName, rfl⟩
    exact ⟨object, address, hostName⟩
  · rintro ⟨object, address, hostName⟩
    exact ⟨object, _, address, _, hostName, rfl⟩

theorem resource_decides : Decides IsResource resource := by
  intro value content
  simp only [resource, bind_ok_iff, pure_ok_iff, text_ok_iff, texts_ok_iff,
    objects_ok_iff IsMount mount mount_decides, objects_ok_iff IsHost host host_decides]
  constructor
  · rintro ⟨object, _, name, _, groups, _, mounts, _, environment, _, hosts, rfl⟩
    exact ⟨object, name, groups, mounts, environment, hosts⟩
  · rintro ⟨object, name, groups, mounts, environment, hosts⟩
    exact ⟨object, _, name, _, groups, _, mounts, _, environment, _, hosts, rfl⟩

theorem minTimeout_ok_iff (value : Json) (content : Duration) :
    minTimeout (.ofValue value) = .ok content ↔
      Defaulting IsTime .zero value Key.minTimeout content := by
  rw [minTimeout, inside_ok_iff, bind_ok_iff]
  simp only [mapError_ok_iff, getOptional_ok_iff, text_read_iff]
  constructor
  · rintro ⟨_, ⟨member, looked, text, rfl, rfl⟩ | ⟨missing, rfl⟩, decoded⟩
    · exact Or.inl ⟨_, looked, text, rfl, (mapError_ok_iff _ _ _).mp decoded⟩
    · exact Or.inr ⟨missing, ((pure_ok_iff _ _).mp decoded).symm⟩
  · rintro (⟨_, looked, text, rfl, denoted⟩ | ⟨missing, rfl⟩)
    · exact ⟨some text, Or.inl ⟨_, looked, text, rfl, rfl⟩, (mapError_ok_iff _ _ _).mpr denoted⟩
    · exact ⟨none, Or.inr ⟨missing, rfl⟩, rfl⟩

theorem rule_decides {α : Type} (threshold : Threshold α) (isThreshold : Json → α → Prop)
    (agrees : ∀ member found,
      threshold.shape.read? member = some found ↔ isThreshold member found) :
    Decides (IsRule isThreshold) (rule threshold) := by
  intro value content
  simp only [rule, bind_ok_iff, pure_ok_iff, minTimeout_ok_iff,
    shaped_ok_iff value threshold.shape _ _ isThreshold agrees]
  constructor
  · rintro ⟨object, _, minTimeout, _, minThreshold, _, maxThreshold, rfl⟩
    exact ⟨object, minTimeout, minThreshold, maxThreshold⟩
  · rintro ⟨object, minTimeout, minThreshold, maxThreshold⟩
    exact ⟨object, _, minTimeout, _, minThreshold, _, maxThreshold, rfl⟩

theorem percentRule_decides : Decides (IsRule IsPercentage) (rule .percent) :=
  rule_decides .percent IsPercentage number_read_iff

theorem pointRule_decides : Decides (IsRule IsUnsigned) (rule .points) :=
  rule_decides .points IsUnsigned unsigned_read_iff

theorem partitionRule_decides : Decides IsPartitionRule partitionRule := by
  intro value content
  simp only [partitionRule, bind_ok_iff, pure_ok_iff, text_ok_iff]
  constructor
  · rintro ⟨object, _, name, _, ruled, rfl⟩
    exact ⟨name, (percentRule_decides value _).mp ⟨object, ruled⟩⟩
  · rintro ⟨name, meant⟩
    obtain ⟨object, ruled⟩ := (percentRule_decides value _).mpr meant
    exact ⟨object, _, name, _, ruled, rfl⟩

theorem alertRules_decides : Decides IsAlertRules alertRules := by
  intro value content
  simp only [alertRules, bind_ok_iff, pure_ok_iff,
    optionalObject_ok_iff _ _ percentRule_decides, optionalObject_ok_iff _ _ pointRule_decides,
    objects_ok_iff _ _ partitionRule_decides]
  constructor
  · rintro ⟨object, _, ram, _, cpu, _, partitions, _, download, _, upload, rfl⟩
    exact ⟨object, ram, cpu, partitions, download, upload⟩
  · rintro ⟨object, ram, cpu, partitions, download, upload⟩
    exact ⟨object, _, ram, _, cpu, _, partitions, _, download, _, upload, rfl⟩

theorem withoutAlertRules_ok_iff (value : Json) (content : Config) :
    withoutAlertRules (.ofValue value) = .ok content ↔
      Required IsText value Key.version content.version ∧
        Required IsText value Key.nodeType content.nodeType ∧
        Required IsUnsigned32 value Key.priority content.priority ∧
        Defaulting (IsArray IsDevice) .empty value Key.devices content.devices ∧
        Defaulting (IsArray IsResource) .empty value Key.resources content.resources ∧
        Defaulting (IsArray IsText) .empty value Key.labels content.labels ∧
        content.alertRules = none := by
  simp only [withoutAlertRules, bind_ok_iff, pure_ok_iff, text_ok_iff, texts_ok_iff,
    objects_ok_iff _ _ device_decides, objects_ok_iff _ _ resource_decides,
    shaped_ok_iff value .unsigned32 _ _ IsUnsigned32 unsigned32_read_iff]
  constructor
  · rintro ⟨_, version, _, nodeType, _, priority, _, devices, _, resources, _, labels, rfl⟩
    exact ⟨version, nodeType, priority, devices, resources, labels, rfl⟩
  · obtain ⟨_, _, _, _, _, _, _⟩ := content
    rintro ⟨version, nodeType, priority, devices, resources, labels, rfl⟩
    exact ⟨_, version, _, nodeType, _, priority, _, devices, _, resources, _, labels, rfl⟩

/-- What the schema admits is decoded, whatever order its members are read in. -/
theorem decode_admitted (value : Json) (config : Config) (admitted : IsConfig value config) :
    Config.decode value = .ok config := by
  simp only [Config.decode, bind_ok_iff, mapError_ok_iff, ofObject_ok_iff, pure_ok_iff]
  refine ⟨_, ⟨admitted.object, rfl⟩, { config with alertRules := none },
    (withoutAlertRules_ok_iff value _).mpr ?_, config.alertRules,
    (optionalObject_ok_iff _ _ alertRules_decides value _ _).mpr admitted.alertRules, rfl⟩
  exact ⟨admitted.version, admitted.nodeType, admitted.priority, admitted.devices,
    admitted.resources, admitted.labels, rfl⟩

theorem admitted_of_decode (value : Json) (config : Config)
    (decoded : Config.decode value = .ok config) : IsConfig value config := by
  simp only [Config.decode, bind_ok_iff, mapError_ok_iff, ofObject_ok_iff, pure_ok_iff] at decoded
  obtain ⟨_, ⟨object, rfl⟩, leading, read, rules, optional, rfl⟩ := decoded
  obtain ⟨version, nodeType, priority, devices, resources, labels, _⟩ :=
    (withoutAlertRules_ok_iff value leading).mp read
  have alertRules := (optionalObject_ok_iff _ _ alertRules_decides value _ rules).mp optional
  exact ⟨object, version, nodeType, priority, devices, resources, labels, alertRules⟩

/-- Decoding succeeds on the documents of the schema alone, with the content they stand for. -/
theorem decode_ok_iff_isConfig (value : Json) (config : Config) :
    Config.decode value = .ok config ↔ IsConfig value config :=
  ⟨admitted_of_decode value config, decode_admitted value config⟩

end NodePolicy.Decode
