import NodePolicy.Proofs.Accepted
import NodePolicy.Proofs.Path

/-!
An error of the decoder names the place its cause is at. For each cause there is one fact about the
value at that place, and the fact is about the steps alone, so it is carried outward by every
segment that is put around it. In an array the index of an element is the number of items found
before it, and this is why the first element too many has the capacity as its index.
-/

namespace NodePolicy

def Fault (value : Json) (steps : List Step) : ConfigError → Prop
  | .field .missing =>
    ∃ outer name object, steps = outer ++ [.member name] ∧ value.follow? outer = some object ∧
      object.isObject = true ∧ object.member? name = none
  | .field (.wrongType _ found) =>
    ∃ place, value.follow? steps = some place ∧ place.typeName = found
  | .field (.notAnObject found) =>
    ∃ place, value.follow? steps = some place ∧ place.typeName = found
  | .capacity ⟨.textBytes, length, capacity⟩ =>
    ∃ text, value.follow? steps = some (.string text) ∧ text.utf8ByteSize = length ∧
      capacity < length
  | .capacity ⟨.elementCount, length, capacity⟩ =>
    length = capacity + 1 ∧ ∃ outer elements, steps = outer ++ [.element capacity] ∧
      value.follow? outer = some (.array elements) ∧ capacity < elements.length
  | .duration error =>
    ∃ text, value.follow? steps = some (.string text) ∧ Duration.read text = .error error
  | .malformed _ => False
  | .failed _ => False
  | .within _ _ => False

/-- The segments of an error are steps to the place of its cause. -/
def Located (value : Json) (error : ConfigError) : Prop :=
  ∃ steps : List Step, error.segments = steps.map Step.segment ∧ (∀ step ∈ steps, step.Known) ∧
    Fault value steps error.rootCause

def Locates {α : Type} (value : Json) (result : Except ConfigError α) : Prop :=
  ∀ error, result = .error error → Located value error

theorem fault_outward (value inner : Json) (step : Step) (steps : List Step) (cause : ConfigError)
    (child : value.child? step = some inner) (fault : Fault inner steps cause) :
    Fault value (step :: steps) cause := by
  -- Every cause is a fact about a place, and the place is the same from one step further out.
  have follow : ∀ rest, value.follow? (step :: rest) = inner.follow? rest := by
    intro rest
    rw [Json.follow?, child, Option.bind_some]
  cases cause with
  | field error =>
      cases error with
      | missing =>
          obtain ⟨outer, name, object, rfl, reached, isObject, absent⟩ := fault
          exact ⟨step :: outer, name, object, rfl, (follow outer).trans reached, isObject, absent⟩
      | wrongType expected found =>
          obtain ⟨place, reached, type⟩ := fault
          exact ⟨place, (follow steps).trans reached, type⟩
      | notAnObject found =>
          obtain ⟨place, reached, type⟩ := fault
          exact ⟨place, (follow steps).trans reached, type⟩
  | capacity error =>
      obtain ⟨bound, length, capacity⟩ := error
      cases bound with
      | textBytes =>
          obtain ⟨text, reached, size⟩ := fault
          exact ⟨text, (follow steps).trans reached, size⟩
      | elementCount =>
          obtain ⟨next, outer, elements, rfl, reached, more⟩ := fault
          exact ⟨next, step :: outer, elements, rfl, (follow outer).trans reached, more⟩
  | duration error =>
      obtain ⟨text, reached, refused⟩ := fault
      exact ⟨text, (follow steps).trans reached, refused⟩
  | malformed _ => exact fault
  | failed _ => exact fault
  | within _ _ => exact fault

theorem located_outward (value inner : Json) (step : Step) (error : ConfigError)
    (known : step.Known) (child : value.child? step = some inner) (located : Located inner error) :
    Located value (.within step.segment error) := by
  obtain ⟨steps, segments, knownSteps, fault⟩ := located
  refine ⟨step :: steps, ?_, ?_, fault_outward value inner step steps _ child fault⟩
  · rw [ConfigError.segments, segments, List.map_cons]
  · intro other member
    rcases List.mem_cons.mp member with rfl | later
    · exact known
    · exact knownSteps other later

theorem located_here (value : Json) (cause : ConfigError) (bare : cause.segments = [])
    (root : cause.rootCause = cause) (fault : Fault value [] cause) : Located value cause := by
  refine ⟨[], bare, ?_, ?_⟩
  · intro step member
    cases member
  · rw [root]
    exact fault

theorem wrongType_located (value : Json) (expected : String) :
    Located value (.field (.wrongType expected value.typeName)) :=
  located_here value _ rfl rfl ⟨value, rfl, rfl⟩

theorem notAnObject_located (value : Json) : Located value (.field (.notAnObject value.typeName)) :=
  located_here value _ rfl rfl ⟨value, rfl, rfl⟩

theorem tooLong_located (text : String) (capacity : Nat) (long : capacity < text.utf8ByteSize) :
    Located (.string text) (.capacity ⟨.textBytes, text.utf8ByteSize, capacity⟩) :=
  located_here _ _ rfl rfl ⟨text, rfl, rfl, long⟩

theorem refused_located (text : String) (error : DurationError)
    (refused : Duration.read text = .error error) : Located (.string text) (.duration error) :=
  located_here _ _ rfl rfl ⟨text, rfl, refused⟩

theorem missing_located (value : Json) (object : value.isObject = true) (name : String)
    (known : name ∈ Key.all) (absent : value.member? name = none) :
    Located value (.within name (.field .missing)) := by
  refine ⟨[.member name], rfl, ?_, [], name, value, rfl, rfl, object, absent⟩
  intro step member
  rw [List.mem_singleton.mp member]
  exact known

theorem tooMany_located (elements : List Json) (capacity : Nat)
    (more : capacity < elements.length) :
    Located (.array elements) (.within (ConfigError.element capacity)
      (.capacity ⟨.elementCount, capacity + 1, capacity⟩)) := by
  refine ⟨[.element capacity], rfl, ?_, rfl, [], elements, rfl, rfl, more⟩
  intro step member
  rw [List.mem_singleton.mp member]
  trivial

theorem member_located (value member : Json) (name : String) (error : ConfigError)
    (known : name ∈ Key.all) (looked : value.member? name = some member)
    (located : Located member error) : Located value (.within name error) :=
  located_outward value member (.member name) error known looked located

theorem element_located (elements : List Json) (index : Nat) (element : Json)
    (error : ConfigError) (inside : elements[index]? = some element)
    (located : Located element error) :
    Located (.array elements) (.within (ConfigError.element index) error) :=
  located_outward (.array elements) element (.element index) error trivial inside located

section Sequence
variable {α β : Type} {value : Json}

theorem locates_pure (content : α) : Locates value (pure content : Except ConfigError α) := by
  intro error failed
  exact absurd failed (pure_ne_error content error)

theorem locates_bind (first : Except ConfigError α) (next : α → Except ConfigError β)
    (earlier : Locates value first) (later : ∀ middle, Locates value (next middle)) :
    Locates value (first >>= next) := by
  intro error failed
  rcases (bind_error_iff first next error).mp failed with failed | ⟨middle, _, failed⟩
  · exact earlier error failed
  · exact later middle error failed

end Sequence

namespace Decode

theorem get_error (value : Json) (name : String) (cause : FieldError)
    (refused : (Record.ofValue value).get name = .error cause) :
    cause = .missing ∧ value.member? name = none := by
  rw [Record.get] at refused
  cases looked : (Record.ofValue value).get? name with
  | some member =>
      rw [looked] at refused
      cases refused
  | none =>
      rw [looked] at refused
      cases refused
      exact ⟨rfl, looked⟩

theorem getShaped_located {α : Type} (value : Json) (object : value.isObject = true)
    (shape : Shape α) (name : String) (known : name ∈ Key.all) (cause : FieldError)
    (refused : (Record.ofValue value).getShaped shape name = .error cause) :
    Located value (.within name (.field cause)) := by
  rw [Record.getShaped, bind_error_iff] at refused
  rcases refused with missing | ⟨member, found, other⟩
  · obtain ⟨rfl, absent⟩ := get_error value name cause missing
    exact missing_located value object name known absent
  · have looked := (get_ok_iff value name member).mp found
    rw [extract_error shape member cause other]
    exact member_located value member name _ known looked (wrongType_located member shape.name)

theorem shaped_locates {α : Type} (value : Json) (object : value.isObject = true)
    (shape : Shape α) (name : String) (known : name ∈ Key.all) :
    Locates value (shaped (.ofValue value) shape name) := by
  intro error failed
  rw [shaped, inside_error_iff] at failed
  obtain ⟨_, failed, rfl⟩ := failed
  obtain ⟨cause, refused, rfl⟩ := (mapError_error_iff _ _ _).mp failed
  exact getShaped_located value object shape name known cause refused

theorem text_locates {bytes : Nat} (value : Json) (object : value.isObject = true) (name : String)
    (known : name ∈ Key.all) :
    Locates value (text (.ofValue value) name : Except ConfigError (BoundedText bytes)) := by
  intro error failed
  rw [text, inside_error_iff] at failed
  obtain ⟨_, failed, rfl⟩ := failed
  rcases (bind_error_iff _ _ _).mp failed with early | ⟨content, read, long⟩
  · obtain ⟨cause, refused, rfl⟩ := (mapError_error_iff _ _ _).mp early
    exact getShaped_located value object .text name known cause refused
  · obtain ⟨cause, refused, rfl⟩ := (mapError_error_iff _ _ _).mp long
    obtain ⟨rfl, exceeds⟩ := ofText_error content cause refused
    obtain ⟨member, looked, shape⟩ :=
      (getShaped_ok_iff value .text name content).mp ((mapError_ok_iff _ _ _).mp read)
    cases (text_read_iff member content).mp shape
    exact member_located value _ name _ known looked (tooLong_located content bytes exceeds)

section Array
variable {α : Type} {capacity : Nat}
  {step : BoundedList α capacity → Nat → Json → Except ConfigError (BoundedList α capacity)}

theorem foldElements_locates (elements : List Json)
    (grows : ∀ found index element next, step found index element = .ok next →
      next.items.length = found.items.length + 1)
    (locates : ∀ found element, elements[found.items.length]? = some element →
      Locates (.array elements) (step found found.items.length element))
    (rest : List Json) (found : BoundedList α capacity)
    (left : elements.drop found.items.length = rest) :
    Locates (.array elements) (Record.foldElements step found.items.length found rest) := by
  -- As long as every step adds one item, the index of an element is the number of items found.
  induction rest generalizing found with
  | nil =>
      intro error failed
      rw [Record.foldElements] at failed
      cases failed
  | cons element rest ih =>
      intro error failed
      rw [Record.foldElements, bind_error_iff] at failed
      rcases failed with failed | ⟨next, stepped, failed⟩
      · have here : elements[found.items.length]? = some element := by
          rw [← List.head?_drop, left, List.head?_cons]
        exact locates found element here error failed
      · have longer := grows found found.items.length element next stepped
        have behind : elements.drop next.items.length = rest := by
          rw [longer, ← List.tail_drop, left, List.tail_cons]
        rw [← longer] at failed
        exact ih next behind error failed

theorem getElements_error (value : Json) (name : String) (cause : FieldError)
    (refused : (Record.ofValue value).getElements name = .error cause) :
    ∃ member, value.member? name = some member ∧ cause = .wrongType "array" member.typeName := by
  rw [Record.getElements] at refused
  cases looked : (Record.ofValue value).get? name with
  | none =>
      rw [looked] at refused
      cases refused
  | some member =>
      refine ⟨member, looked, ?_⟩
      cases elements : member.elements? with
      | some _ =>
          simp only [looked, elements] at refused
          cases refused
      | none =>
          simp only [looked, elements] at refused
          cases refused
          rfl

theorem array_locates (value : Json) (name : String) (known : name ∈ Key.all)
    (grows : ∀ found index element next, step found index element = .ok next →
      next.items.length = found.items.length + 1)
    (locates : ∀ elements found element, elements[found.items.length]? = some element →
      Locates (.array elements) (step found found.items.length element)) :
    Locates value
      (inside name ((Record.ofValue value).foldArray name .field BoundedList.empty step)) := by
  intro error failed
  obtain ⟨inner, stopped, rfl⟩ := (inside_error_iff _ _ _).mp failed
  rw [Record.foldArray, bind_error_iff] at stopped
  rcases stopped with noArray | ⟨elements, found, stopped⟩
  · obtain ⟨cause, refused, rfl⟩ := (mapError_error_iff _ _ _).mp noArray
    obtain ⟨member, looked, rfl⟩ := getElements_error value name cause refused
    exact member_located value member name _ known looked (wrongType_located member "array")
  · rcases (getElements_ok_iff value name elements).mp ((mapError_ok_iff _ _ _).mp found) with
      looked | ⟨_, rfl⟩
    · exact member_located value _ name inner known looked
        (foldElements_locates elements grows (locates elements) elements .empty rfl inner stopped)
    · rw [Record.foldElements] at stopped
      cases stopped

end Array

theorem texts_locates {bytes capacity : Nat} (value : Json) (name : String)
    (known : name ∈ Key.all) :
    Locates value (texts (.ofValue value) name :
      Except ConfigError (BoundedList (BoundedText bytes) capacity)) := by
  apply array_locates value name known
  · intro found index element next stepped
    rw [inside_ok_iff, bind_ok_iff] at stepped
    obtain ⟨content, _, pushed⟩ := stepped
    obtain ⟨item, _, items⟩ := (pushText_ok_iff found next content).mp
      ((mapError_ok_iff _ _ _).mp pushed)
    rw [items, List.length_append, List.length_singleton]
  · intro elements found element here error failed
    obtain ⟨inner, stopped, rfl⟩ := (inside_error_iff _ _ _).mp failed
    rcases (bind_error_iff _ _ _).mp stopped with noText | ⟨content, read, full⟩
    · obtain ⟨cause, refused, rfl⟩ := (mapError_error_iff _ _ _).mp noText
      rw [extract_error .text element cause refused]
      exact element_located elements _ element _ here (wrongType_located element _)
    · obtain ⟨cause, refused, rfl⟩ := (mapError_error_iff _ _ _).mp full
      rcases pushText_error found content cause refused with ⟨rfl, length⟩ | ⟨rfl, long⟩
      · -- The list is full, so the index is the capacity, and an element stands at it.
        rw [length] at here ⊢
        exact tooMany_located elements capacity (List.getElem?_eq_some_iff.mp here).1
      · have shape := (extract_ok_iff .text element content).mp ((mapError_ok_iff _ _ _).mp read)
        cases (text_read_iff element content).mp shape
        exact element_located elements _ _ _ here (tooLong_located content bytes long)

def LocatesObjects {α : Type} (decode : Record → Except ConfigError α) : Prop :=
  ∀ value, value.isObject = true → Locates value (decode (.ofValue value))

theorem objects_locates {α : Type} {capacity : Nat} (value : Json) (name : String)
    (known : name ∈ Key.all) (decode : Record → Except ConfigError α)
    (locates : LocatesObjects decode) :
    Locates value
      (objects (.ofValue value) name decode : Except ConfigError (BoundedList α capacity)) := by
  apply array_locates value name known
  · intro found index element next stepped
    simp only [inside_ok_iff, bind_ok_iff, mapError_ok_iff, push_ok_iff] at stepped
    obtain ⟨_, _, item, _, items⟩ := stepped
    rw [items, List.length_append, List.length_singleton]
  · intro elements found element here error failed
    obtain ⟨inner, stopped, rfl⟩ := (inside_error_iff _ _ _).mp failed
    rcases (bind_error_iff _ _ _).mp stopped with noObject | ⟨record, made, stopped⟩
    · obtain ⟨cause, refused, rfl⟩ := (mapError_error_iff _ _ _).mp noObject
      rw [ofObject_error element cause refused]
      exact element_located elements _ element _ here (notAnObject_located element)
    · obtain ⟨object, rfl⟩ := (ofObject_ok_iff element record).mp ((mapError_ok_iff _ _ _).mp made)
      rcases (bind_error_iff _ _ _).mp stopped with deeper | ⟨item, _, full⟩
      · exact element_located elements _ element _ here (locates element object inner deeper)
      · obtain ⟨cause, refused, rfl⟩ := (mapError_error_iff _ _ _).mp full
        obtain ⟨rfl, length⟩ := push_error found item cause refused
        rw [length] at here ⊢
        exact tooMany_located elements capacity (List.getElem?_eq_some_iff.mp here).1

theorem optionalObject_locates {α : Type} (value : Json) (name : String) (known : name ∈ Key.all)
    (decode : Record → Except ConfigError α) (locates : LocatesObjects decode) :
    Locates value (optionalObject (.ofValue value) name decode) := by
  intro error failed
  rw [optionalObject, Record.has] at failed
  cases looked : (Record.ofValue value).get? name with
  | none =>
      rw [looked, Option.isSome_none, if_neg Bool.false_ne_true] at failed
      cases failed
  | some member =>
      rw [looked, Option.isSome_some, if_pos rfl, inside_error_iff] at failed
      obtain ⟨inner, stopped, rfl⟩ := failed
      apply member_located value member name inner known looked
      simp only [Record.getObject, Record.get, looked] at stopped
      rcases (bind_error_iff _ _ _).mp stopped with noObject | ⟨record, made, stopped⟩
      · obtain ⟨cause, refused, rfl⟩ := (mapError_error_iff _ _ _).mp noObject
        rw [ofObject_error member cause refused]
        exact notAnObject_located member
      · obtain ⟨object, rfl⟩ :=
          (ofObject_ok_iff member record).mp ((mapError_ok_iff _ _ _).mp made)
        rcases (bind_error_iff _ _ _).mp stopped with deeper | ⟨content, _, stopped⟩
        · exact locates member object inner deeper
        · exact absurd stopped (pure_ne_error (some content) inner)

theorem getOptional_error {α : Type} (value : Json) (shape : Shape α) (name : String)
    (cause : FieldError)
    (refused : (Record.ofValue value).getOptional shape name = .error cause) :
    ∃ member, value.member? name = some member ∧ cause = .wrongType shape.name member.typeName := by
  rw [Record.getOptional] at refused
  cases looked : (Record.ofValue value).get? name with
  | none =>
      rw [looked] at refused
      cases refused
  | some member =>
      rw [looked] at refused
      refine ⟨member, looked, extract_error shape member cause ?_⟩
      cases extracted : shape.extract member with
      | ok _ =>
          simp only [extracted, Except.map] at refused
          cases refused
      | error other =>
          simp only [extracted, Except.map] at refused
          exact congrArg Except.error (Except.error.inj refused)

theorem minTimeout_locates (value : Json) : Locates value (minTimeout (.ofValue value)) := by
  have known : Key.minTimeout ∈ Key.all := by decide
  intro error failed
  rw [minTimeout, inside_error_iff] at failed
  obtain ⟨inner, stopped, rfl⟩ := failed
  rcases (bind_error_iff _ _ _).mp stopped with noText | ⟨content, read, stopped⟩
  · obtain ⟨cause, refused, rfl⟩ := (mapError_error_iff _ _ _).mp noText
    obtain ⟨member, looked, rfl⟩ := getOptional_error value .text Key.minTimeout cause refused
    exact member_located value member _ _ known looked (wrongType_located member _)
  · cases content with
    | none => exact absurd stopped (pure_ne_error Duration.zero inner)
    | some content =>
        obtain ⟨cause, refused, rfl⟩ := (mapError_error_iff _ _ _).mp stopped
        rcases (getOptional_ok_iff value .text Key.minTimeout (some content)).mp
          ((mapError_ok_iff _ _ _).mp read) with ⟨member, looked, _, shape, same⟩ | ⟨_, absent⟩
        · cases same
          cases (text_read_iff member content).mp shape
          exact member_located value _ _ _ known looked (refused_located content cause refused)
        · cases absent

theorem device_locates : LocatesObjects device := by
  intro value object
  apply locates_bind _ _ (text_locates value object _ (by decide))
  intro name
  apply locates_bind _ _ (shaped_locates value object _ _ (by decide))
  intro sharedCount
  apply locates_bind _ _ (texts_locates value _ (by decide))
  intro groups
  apply locates_bind _ _ (texts_locates value _ (by decide))
  intro hostDevices
  exact locates_pure _

theorem mount_locates : LocatesObjects mount := by
  intro value object
  apply locates_bind _ _ (text_locates value object _ (by decide))
  intro destination
  apply locates_bind _ _ (text_locates value object _ (by decide))
  intro mountType
  apply locates_bind _ _ (text_locates value object _ (by decide))
  intro source
  apply locates_bind _ _ (texts_locates value _ (by decide))
  intro options
  exact locates_pure _

theorem host_locates : LocatesObjects host := by
  intro value object
  apply locates_bind _ _ (text_locates value object _ (by decide))
  intro address
  apply locates_bind _ _ (text_locates value object _ (by decide))
  intro hostName
  exact locates_pure _

theorem resource_locates : LocatesObjects resource := by
  intro value object
  apply locates_bind _ _ (text_locates value object _ (by decide))
  intro name
  apply locates_bind _ _ (texts_locates value _ (by decide))
  intro groups
  apply locates_bind _ _ (objects_locates value _ (by decide) mount mount_locates)
  intro mounts
  apply locates_bind _ _ (texts_locates value _ (by decide))
  intro environment
  apply locates_bind _ _ (objects_locates value _ (by decide) host host_locates)
  intro hosts
  exact locates_pure _

theorem rule_locates {α : Type} (threshold : Threshold α) : LocatesObjects (rule threshold) := by
  intro value object
  apply locates_bind _ _ (minTimeout_locates value)
  intro minTimeout
  apply locates_bind _ _ (shaped_locates value object _ _ (by decide))
  intro minThreshold
  apply locates_bind _ _ (shaped_locates value object _ _ (by decide))
  intro maxThreshold
  exact locates_pure _

theorem partitionRule_locates : LocatesObjects partitionRule := by
  intro value object
  apply locates_bind _ _ (text_locates value object _ (by decide))
  intro name
  apply locates_bind _ _ (rule_locates .percent value object)
  intro rule
  exact locates_pure _

theorem alertRules_locates : LocatesObjects alertRules := by
  intro value _
  apply locates_bind _ _ (optionalObject_locates value _ (by decide) _ (rule_locates .percent))
  intro ram
  apply locates_bind _ _ (optionalObject_locates value _ (by decide) _ (rule_locates .percent))
  intro cpu
  apply locates_bind _ _ (objects_locates value _ (by decide) _ partitionRule_locates)
  intro partitions
  apply locates_bind _ _ (optionalObject_locates value _ (by decide) _ (rule_locates .points))
  intro download
  apply locates_bind _ _ (optionalObject_locates value _ (by decide) _ (rule_locates .points))
  intro upload
  exact locates_pure _

theorem withoutAlertRules_locates : LocatesObjects withoutAlertRules := by
  intro value object
  apply locates_bind _ _ (text_locates value object _ (by decide))
  intro version
  apply locates_bind _ _ (text_locates value object _ (by decide))
  intro nodeType
  apply locates_bind _ _ (shaped_locates value object _ _ (by decide))
  intro priority
  apply locates_bind _ _ (objects_locates value _ (by decide) device device_locates)
  intro devices
  apply locates_bind _ _ (objects_locates value _ (by decide) resource resource_locates)
  intro resources
  apply locates_bind _ _ (texts_locates value _ (by decide))
  intro labels
  exact locates_pure _

theorem decode_locates (value : Json) : Locates value (Config.decode value) := by
  intro error failed
  rw [Config.decode, bind_error_iff] at failed
  rcases failed with noObject | ⟨record, made, failed⟩
  · obtain ⟨cause, refused, rfl⟩ := (mapError_error_iff _ _ _).mp noObject
    rw [ofObject_error value cause refused]
    exact notAnObject_located value
  · obtain ⟨object, rfl⟩ := (ofObject_ok_iff value record).mp ((mapError_ok_iff _ _ _).mp made)
    have locates : Locates value (withoutAlertRules (.ofValue value) >>= fun config =>
        optionalObject (.ofValue value) Key.alertRules alertRules >>= fun rules =>
          pure { config with alertRules := rules }) := by
      apply locates_bind _ _ (withoutAlertRules_locates value object)
      intro config
      apply locates_bind _ _ (optionalObject_locates value _ (by decide) _ alertRules_locates)
      intro rules
      exact locates_pure _
    exact locates error failed

theorem kind_rootCause (error : ConfigError) : error.kind = error.rootCause.kind := by
  induction error with
  | within segment cause ih => exact ih
  | malformed _ => rfl
  | field _ => rfl
  | capacity _ => rfl
  | duration _ => rfl
  | failed _ => rfl

theorem fault_kind (value : Json) (steps : List Step) (cause : ConfigError)
    (fault : Fault value steps cause) : cause.kind = .failed ↔ cause = .duration .empty := by
  cases cause with
  | field _ => simp [ConfigError.kind, FieldError.kind]
  | capacity _ => simp [ConfigError.kind, CapacityError.kind]
  | duration error => cases error <;> simp [ConfigError.kind, DurationError.kind]
  | malformed _ => exact False.elim fault
  | failed _ => exact False.elim fault
  | within _ _ => exact False.elim fault

theorem fault_of_value (value : Json) (steps : List Step) (cause : ConfigError)
    (fault : Fault value steps cause) :
    (∀ error, cause ≠ .malformed error) ∧ ∀ text, cause ≠ .failed text := by
  constructor
  · rintro error rfl
    exact fault
  · rintro text rfl
    exact fault

/-- The path of an error, followed from the value that was decoded, ends where its cause is. -/
theorem decode_error_place (value : Json) (error : ConfigError)
    (failed : Config.decode value = .error error) :
    (∃ steps, Path.read? (error.fieldPath?.getD "") = some steps ∧
      Fault value steps error.rootCause) ∧
      ((∀ cause, error.rootCause ≠ .malformed cause) ∧ ∀ text, error.rootCause ≠ .failed text) ∧
      (error.kind = .failed ↔ error.rootCause = .duration .empty) := by
  obtain ⟨steps, segments, known, fault⟩ := decode_locates value error failed
  refine ⟨⟨steps, Path.read_fieldPath error steps segments known, fault⟩, ?_, ?_⟩
  · exact fault_of_value value steps error.rootCause fault
  · rw [kind_rootCause]
    exact fault_kind value steps error.rootCause fault

def numericOption : Json :=
  .object [
    (Key.version, .string "1.0"), (Key.nodeType, .string "edge"), (Key.priority, .ofUInt64 1),
    (Key.devices, .array []),
    (Key.resources, .array [.object [
      (Key.name, .string "disk"), (Key.groups, .array []),
      (Key.mounts, .array [.object [
        (Key.destination, .string "/data"), (Key.mountType, .string "bind"),
        (Key.source, .string "/srv"), (Key.options, .array [.string "ro", .ofUInt64 1])]])]])]

/-- The error of `resources[0].mounts[0].options[1]`. -/
def numericOptionError : ConfigError :=
  .within Key.resources <| .within "[0]" <| .within Key.mounts <| .within "[0]" <|
    .within Key.options <| .within "[1]" <| .field (.wrongType "string" "number")

theorem numericOption_place :
    Config.decode numericOption = .error numericOptionError ∧
      (∃ steps, Path.read? (numericOptionError.fieldPath?.getD "") = some steps ∧
        Fault numericOption steps numericOptionError.rootCause) ∧
      ((∀ cause, numericOptionError.rootCause ≠ .malformed cause) ∧
        ∀ text, numericOptionError.rootCause ≠ .failed text) ∧
      (numericOptionError.kind = .failed ↔ numericOptionError.rootCause = .duration .empty) := by
  have failed : Config.decode numericOption = .error numericOptionError := rfl
  exact ⟨failed, decode_error_place numericOption numericOptionError failed⟩

end Decode

end NodePolicy
