import Mathlib.Order.Bounds.Defs
import NodePolicy.Proofs.Accepted
import NodePolicy.Proofs.ErrorMessage
import NodePolicy.Proofs.FirstFailure

/-!
Arrays that are read into bounded lists. Texts and objects are read by one loop: it does a part of
the work on every element that it reaches, asks whether there is room, and does the rest. So it gets
past the elements that convert as long as there is room, and the first one that it does not get past
decides the error alone. Where there is no room the first part of the work still comes first.
-/

namespace NodePolicy.Decode

theorem foldElements_append {ε σ : Type} (step : σ → Nat → Json → Except ε σ) (index : Nat)
    (state : σ) (front back : List Json) :
    Record.foldElements step index state (front ++ back) =
      (Record.foldElements step index state front >>= fun after =>
        Record.foldElements step (index + front.length) after back) := by
  induction front generalizing index state with
  | nil => rfl
  | cons element rest ih =>
      rw [List.cons_append, Record.foldElements, Record.foldElements, bind_assoc]
      apply bind_congr
      intro next
      rw [ih, List.length_cons, Nat.add_assoc, Nat.add_comm 1]

/-- The work on an element: what is done before there is known to be room for it, and after. -/
structure Intake (β α : Type) where
  take : Json → Except ConfigError β
  keep : β → Except ConfigError α

def textIntake (bytes : Nat) : Intake String (BoundedText bytes) where
  take element := (Shape.text.extract element).mapError .field
  keep value := (BoundedText.ofText value).mapError .capacity

def objectIntake {α : Type} (decode : Record → Except ConfigError α) : Intake α α where
  take element := do
    let object ← (Record.ofObject element).mapError ConfigError.field
    decode object
  keep := pure

namespace Intake

variable {α β : Type} {capacity : Nat} (intake : Intake β α)

def convert (element : Json) : Except ConfigError α := do
  intake.keep (← intake.take element)

/-- What is said of an element that there is no room for. -/
def excess (capacity : Nat) (element : Json) : ConfigError :=
  match intake.take element with
  | .error cause => cause
  | .ok _ => .capacity ⟨.elementCount, capacity + 1, capacity⟩

/-- An index where the loop stops: the element at it does not convert, or it is the limit. -/
def Blocks (capacity : Nat) (elements : List Json) (index : Nat) : Prop :=
  ∃ element, elements[index]? = some element ∧
    (index = capacity ∨ ¬ ∃ item, intake.convert element = .ok item)

def Refuses (capacity index : Nat) (element : Json) (cause : ConfigError) : Prop :=
  if index = capacity then intake.excess capacity element = cause
  else intake.convert element = .error cause

def step (found : BoundedList α capacity) (index : Nat) (element : Json) :
    Except ConfigError (BoundedList α capacity) :=
  inside (ConfigError.element index) do
    let taken ← intake.take element
    if found.isFull then .error (.capacity ⟨.elementCount, capacity + 1, capacity⟩)
    else (found.push (← intake.keep taken)).mapError .capacity

def collect (capacity : Nat) (record : Record) (name : String) :
    Except ConfigError (BoundedList α capacity) :=
  inside name (record.foldArray name .field .empty intake.step)

theorem step_full (found : BoundedList α capacity) (full : found.isFull = true) (index : Nat)
    (element : Json) :
    intake.step found index element =
      .error (.within (ConfigError.element index) (intake.excess capacity element)) := by
  rw [step, excess, full]
  cases intake.take element <;> rfl

theorem step_room (found : BoundedList α capacity) (room : found.isFull = false) (index : Nat)
    (element : Json) :
    intake.step found index element =
      inside (ConfigError.element index)
        (intake.convert element >>= fun item => (found.push item).mapError .capacity) := by
  rw [step, convert, room]
  cases intake.take element <;> rfl

theorem step_appends :
    Appends (fun element item => intake.convert element = .ok item)
      (intake.step : BoundedList α capacity → Nat → Json → _) := by
  intro found index element next
  cases full : found.isFull with
  | true =>
      rw [step_full intake found full]
      constructor
      · intro stepped
        cases stepped
      · -- A full list with one item more would break its own limit.
        rintro ⟨item, _, grown⟩
        have fits := next.fits
        have length := (isFull_iff found).mp full
        rw [grown, List.length_append, List.length_singleton] at fits
        omega
  | false =>
      rw [step_room intake found full, inside_ok_iff, bind_ok_iff]
      simp only [mapError_ok_iff, push_ok_iff]

theorem step_error (found : BoundedList α capacity) (index : Nat) (element : Json)
    (error : ConfigError) (stopped : intake.step found index element = .error error) :
    ∃ cause, intake.Refuses capacity found.items.length element cause ∧
      error = .within (ConfigError.element index) cause := by
  by_cases full : found.items.length = capacity
  · rw [step_full intake found ((isFull_iff found).mpr full)] at stopped
    cases stopped
    exact ⟨_, (if_pos full).mpr rfl, rfl⟩
  · have room : found.isFull = false := Bool.eq_false_iff.mpr (mt (isFull_iff found).mp full)
    rw [step_room intake found room, inside_error_iff] at stopped
    obtain ⟨cause, stopped, rfl⟩ := stopped
    refine ⟨cause, (if_neg full).mpr ?_, rfl⟩
    rcases (bind_error_iff _ _ _).mp stopped with unconverted | ⟨item, _, noRoom⟩
    · exact unconverted
    · obtain ⟨refusal, refused, _⟩ := (mapError_error_iff _ _ _).mp noRoom
      exact absurd (push_error found item refusal refused).2 full

theorem foldElements_error (elements : List Json) (found : BoundedList α capacity)
    (error : ConfigError)
    (stopped : Record.foldElements intake.step found.items.length found elements = .error error) :
    ∃ front element back cause, elements = front ++ element :: back ∧
      (∀ earlier ∈ front, ∃ item, intake.convert earlier = .ok item) ∧
      found.items.length + front.length ≤ capacity ∧
      intake.Refuses capacity (found.items.length + front.length) element cause ∧
      error = .within (ConfigError.element (found.items.length + front.length)) cause := by
  -- As long as elements convert, the index of the next one is the number of items found.
  induction elements generalizing found with
  | nil =>
      rw [Record.foldElements] at stopped
      cases stopped
  | cons element rest ih =>
      rw [Record.foldElements, bind_error_iff] at stopped
      rcases stopped with here | ⟨next, stepped, later⟩
      · obtain ⟨cause, refused, rfl⟩ := intake.step_error found _ element error here
        exact ⟨[], element, rest, cause, rfl, by simp, found.fits, refused, rfl⟩
      · obtain ⟨item, converted, grown⟩ :=
          (intake.step_appends found _ element next).mp stepped
        have longer : next.items.length = found.items.length + 1 := by
          rw [grown, List.length_append, List.length_singleton]
        rw [← longer] at later
        obtain ⟨front, last, back, cause, rfl, convert, fits, refused, rfl⟩ := ih next later
        rw [longer, Nat.add_right_comm] at fits refused ⊢
        refine ⟨element :: front, last, back, cause, rfl, ?_, fits, refused, rfl⟩
        intro earlier member
        rcases List.mem_cons.mp member with rfl | member
        · exact ⟨item, converted⟩
        · exact convert earlier member

def Becomes (elements : List Json) (items : List α) : Prop :=
  List.Forall₂ (fun element item => intake.convert element = .ok item) elements items

theorem exists_becomes_iff (elements : List Json) :
    (∃ items, intake.Becomes elements items) ↔
      ∀ element ∈ elements, ∃ item, intake.convert element = .ok item := by
  induction elements with
  | nil => simp [Becomes]
  | cons element rest ih =>
      rw [List.forall_mem_cons, ← ih]
      constructor
      · rintro ⟨items, becomes⟩
        obtain ⟨item, rest, first, later, rfl⟩ := List.forall₂_cons_left_iff.mp becomes
        exact ⟨⟨item, first⟩, rest, later⟩
      · rintro ⟨⟨item, first⟩, items, later⟩
        exact ⟨item :: items, .cons first later⟩

theorem foldElements_ok (elements : List Json) (content : BoundedList α capacity) :
    Record.foldElements intake.step 0 .empty elements = .ok content ↔
      intake.Becomes elements content.items := by
  rw [foldElements_ok_iff intake.step_appends]
  constructor
  · rintro ⟨items, becomes, same⟩
    exact same ▸ becomes
  · intro becomes
    exact ⟨content.items, becomes, rfl⟩

theorem exists_content_iff (elements : List Json) :
    (∃ content : BoundedList α capacity,
        Record.foldElements intake.step 0 .empty elements = .ok content) ↔
      elements.length ≤ capacity ∧
        ∀ element ∈ elements, ∃ item, intake.convert element = .ok item := by
  simp only [foldElements_ok, ← exists_becomes_iff]
  constructor
  · rintro ⟨content, becomes⟩
    exact ⟨becomes.length_eq ▸ content.fits, content.items, becomes⟩
  · rintro ⟨fits, items, becomes⟩
    exact ⟨⟨items, becomes.length_eq ▸ fits⟩, becomes⟩

theorem refuses_blocks (elements : List Json) (index : Nat) (element : Json) (cause : ConfigError)
    (here : elements[index]? = some element) (refused : intake.Refuses capacity index element cause) :
    intake.Blocks capacity elements index := by
  refine ⟨element, here, ?_⟩
  by_cases limit : index = capacity
  · exact .inl limit
  · refine .inr ?_
    rintro ⟨item, converted⟩
    have failed := (if_neg limit).mp refused
    cases converted.symm.trans failed

/-- The first element that is refused is the first that blocks. -/
theorem blocks_least (front back : List Json) (element : Json) (cause : ConfigError)
    (converted : ∀ earlier ∈ front, ∃ item, intake.convert earlier = .ok item)
    (fits : front.length ≤ capacity) (refused : intake.Refuses capacity front.length element cause) :
    IsLeast {index | intake.Blocks capacity (front ++ element :: back) index} front.length := by
  constructor
  · exact intake.refuses_blocks _ _ element cause (by simp) refused
  · rintro index ⟨other, here, blocks⟩
    by_contra earlier
    have before : index < front.length := Nat.lt_of_not_le earlier
    rw [List.getElem?_append_left before] at here
    rcases blocks with limit | unconverted
    · omega
    · exact unconverted (converted other (List.mem_of_getElem? here))

/-- Elements up to one that blocks do not become a list. -/
theorem blocked_front (capacity : Nat) (elements : List Json) (index : Nat)
    (blocks : intake.Blocks capacity elements index) :
    ∃ error, Record.foldElements intake.step 0 (.empty : BoundedList α capacity)
      (elements.take (index + 1)) = .error error := by
  cases outcome : Record.foldElements intake.step 0 (.empty : BoundedList α capacity)
      (elements.take (index + 1)) with
  | error error => exact ⟨error, rfl⟩
  | ok content =>
      obtain ⟨fits, converted⟩ := (intake.exists_content_iff _).mp ⟨content, outcome⟩
      obtain ⟨element, here, limit | unconverted⟩ := blocks
      · have present := (List.getElem?_eq_some_iff.mp here).1
        rw [List.length_take] at fits
        omega
      · have member : element ∈ elements.take (index + 1) :=
          List.mem_of_getElem? (by rw [List.getElem?_take_of_lt (Nat.lt_succ_self index), here])
        exact absurd (converted element member) unconverted

theorem collect_of_array (capacity : Nat) (record : Record) (name : String) (elements : List Json)
    (listed : record.get? name = some (.array elements)) :
    intake.collect capacity record name =
      inside name (Record.foldElements intake.step 0 .empty elements) := by
  rw [collect, Record.foldArray, Record.getElements, listed]
  rfl

end Intake

/-- A text is pushed as one that is measured when the list has room. -/
theorem pushText_room {bytes capacity : Nat} (found : BoundedList (BoundedText bytes) capacity)
    (text : String) :
    (found.pushText text).mapError ConfigError.capacity =
      if found.isFull then .error (.capacity ⟨.elementCount, capacity + 1, capacity⟩)
      else ((BoundedText.ofText text).mapError ConfigError.capacity >>= fun item =>
        (found.push item).mapError .capacity) := by
  rw [BoundedList.pushText]
  split
  · next full =>
      have size : found.size = capacity := (isFull_iff found).mp full
      rw [size]
      rfl
  · cases (BoundedText.ofText text : Except CapacityError (BoundedText bytes)) <;> rfl

theorem push_room {α : Type} {capacity : Nat} (found : BoundedList α capacity) (item : α) :
    (found.push item).mapError ConfigError.capacity =
      if found.isFull then .error (.capacity ⟨.elementCount, capacity + 1, capacity⟩)
      else (found.push item).mapError .capacity := by
  split
  · next full =>
      have length := (isFull_iff found).mp full
      rw [BoundedList.push, dif_neg (by omega), length]
      rfl
  · rfl

theorem texts_collect {bytes capacity : Nat} (record : Record) (name : String) :
    (texts record name : Except ConfigError (BoundedList (BoundedText bytes) capacity)) =
      (textIntake bytes).collect capacity record name := by
  rw [texts, Intake.collect]
  simp only [pushText_room]
  rfl

theorem objects_collect {α : Type} {capacity : Nat} (record : Record) (name : String)
    (decode : Record → Except ConfigError α) :
    (objects record name decode : Except ConfigError (BoundedList α capacity)) =
      (objectIntake decode).collect capacity record name := by
  rw [objects, Intake.collect]
  congr 2
  funext found index element
  rw [Intake.step]
  congr 1
  rw [objectIntake]
  simp only [bind_assoc, pure_bind]
  apply bind_congr
  intro object
  apply bind_congr
  intro item
  exact push_room found item

/-- A list of at most `capacity` items read from an array that is a member: it is there exactly when
no element blocks, and else the first element that does decides the error, and nothing after it
matters. -/
structure StopsFirst {α β : Type} {capacity : Nat} (intake : Intake β α) (name : String)
    (elements : List Json) (loop : Record → Except ConfigError (BoundedList α capacity))
    (record : Record) : Prop where
  accepted_iff : (∃ content, loop record = .ok content) ↔
    elements.length ≤ capacity ∧ ∀ element ∈ elements, ∃ item, intake.convert element = .ok item
  accepted : ∀ content, loop record = .ok content → intake.Becomes elements content.items
  refused : ∀ error, loop record = .error error → ∃ index element cause,
    IsLeast {index | intake.Blocks capacity elements index} index ∧
    elements[index]? = some element ∧ intake.Refuses capacity index element cause ∧
    error = .within name (.within (ConfigError.element index) cause) ∧
    error.fieldPath? =
      some (cause.segments.foldl ConfigError.joinSegment (name ++ ConfigError.element index))
  undisturbed : ∀ index, intake.Blocks capacity elements index → ∀ other later,
    Record.get? other name = some (.array (elements.take (index + 1) ++ later)) →
      loop other = loop record

theorem fieldPath?_element (name : String) (index : Nat) (cause : ConfigError) :
    (ConfigError.within name (.within (ConfigError.element index) cause)).fieldPath? =
      some (cause.segments.foldl ConfigError.joinSegment (name ++ ConfigError.element index)) := by
  have start : ConfigError.joinSegment "" name = name := String.empty_append
  have joined : (ConfigError.within name (.within (ConfigError.element index) cause)).segments.foldl
      ConfigError.joinSegment "" =
        cause.segments.foldl ConfigError.joinSegment (name ++ ConfigError.element index) := by
    rw [ConfigError.segments, ConfigError.segments, List.foldl_cons, List.foldl_cons, start,
      ConfigError.joinSegment_index]
  rw [ConfigError.fieldPath?_spelled, ← ConfigError.foldl_joinSegment, joined, if_neg]
  rw [← joined, ConfigError.foldl_joinSegment, ConfigError.spelledPath_empty_iff]
  intro empty
  have bracket := empty (ConfigError.element index) (by simp [ConfigError.segments])
  simp [ConfigError.element] at bracket

theorem collect_stopsFirst {α β : Type} {capacity : Nat} (intake : Intake β α) (record : Record)
    (name : String) (elements : List Json) (listed : record.get? name = some (.array elements)) :
    StopsFirst intake name elements (fun record => intake.collect capacity record name) record := by
  have array := intake.collect_of_array capacity record name elements listed
  constructor
  · simp only [array, inside_ok_iff]
    exact intake.exists_content_iff elements
  · intro content read
    rw [array, inside_ok_iff] at read
    exact (intake.foldElements_ok elements content).mp read
  · intro error failed
    rw [array, inside_error_iff] at failed
    obtain ⟨_, stopped, rfl⟩ := failed
    obtain ⟨front, element, back, cause, rfl, converted, fits, refused, rfl⟩ :=
      intake.foldElements_error elements .empty _ stopped
    have start : (BoundedList.empty : BoundedList α capacity).items.length + front.length =
        front.length := Nat.zero_add _
    rw [start] at fits refused ⊢
    exact ⟨front.length, element, cause,
      intake.blocks_least front back element cause converted fits refused, by simp, refused, rfl,
      fieldPath?_element name front.length cause⟩
  · -- Both arrays begin with the same elements, and these have failed before the rest is reached.
    intro index blocks other later listedOther
    obtain ⟨error, stopped⟩ := intake.blocked_front capacity elements index blocks
    have fails (rest : List Json) :
        Record.foldElements intake.step 0 (.empty : BoundedList α capacity)
          (elements.take (index + 1) ++ rest) = .error error := by
      rw [foldElements_append, stopped]
      rfl
    have own := fails (elements.drop (index + 1))
    rw [List.take_append_drop] at own
    rw [intake.collect_of_array capacity other name _ listedOther, array, own, fails later]

theorem textIntake_converts_iff {bytes : Nat} (element : Json) (item : BoundedText bytes) :
    (textIntake bytes).convert element = .ok item ↔ element = .string item.text := by
  rw [Intake.convert, bind_ok_iff]
  simp only [textIntake, mapError_ok_iff, extract_ok_iff, text_read_iff, ofText_ok_iff]
  constructor
  · rintro ⟨text, rfl, same⟩
    rw [same]
  · intro same
    exact ⟨item.text, same, rfl⟩

theorem objectIntake_converts_iff {α : Type} (decode : Record → Except ConfigError α)
    (element : Json) (item : α) :
    (objectIntake decode).convert element = .ok item ↔
      element.isObject = true ∧ decode (.ofValue element) = .ok item := by
  rw [Intake.convert, bind_ok_iff]
  simp only [objectIntake, bind_ok_iff, mapError_ok_iff, ofObject_ok_iff, pure_ok_iff]
  constructor
  · rintro ⟨_, ⟨_, ⟨object, rfl⟩, decoded⟩, rfl⟩
    exact ⟨object, decoded⟩
  · rintro ⟨object, decoded⟩
    exact ⟨item, ⟨_, ⟨object, rfl⟩, decoded⟩, rfl⟩

/-- Any text is one element too many where there is no room, even one that is too long. -/
theorem textIntake_excess (bytes capacity : Nat) (element : Json) :
    (textIntake bytes).excess capacity element = match element with
      | .string _ => .capacity ⟨.elementCount, capacity + 1, capacity⟩
      | other => .field (.wrongType "string" other.typeName) := by
  cases element <;> rfl

/-- An object that cannot be decoded is refused for that, where there is room and where there is
none. -/
theorem objectIntake_excess {α : Type} (decode : Record → Except ConfigError α) (capacity : Nat)
    (element : Json) :
    (objectIntake decode).excess capacity element = match (objectIntake decode).convert element with
      | .error cause => cause
      | .ok _ => .capacity ⟨.elementCount, capacity + 1, capacity⟩ := by
  rw [Intake.excess, Intake.convert]
  cases (objectIntake decode).take element <;> rfl

/-- An array of texts or of objects is read up to the first element that does not convert or that
there is no room for. Without one it becomes the list of its conversions. With one the error is that
element's, at its index and with the path of what was found wrong inside of it, whatever comes
later. Where there is no room a value that is no text and an object that cannot be decoded are still
refused for that; a text is too many however long it is. -/
theorem arrays_stop_first (record : Record) (name : String) (elements : List Json) (capacity : Nat)
    (listed : record.get? name = some (.array elements)) :
    (∀ bytes,
      StopsFirst (textIntake bytes) name elements
        (fun record =>
          (texts record name : Except ConfigError (BoundedList (BoundedText bytes) capacity)))
        record ∧
      ∀ element,
        (∀ item, (textIntake bytes).convert element = .ok item ↔ element = .string item.text) ∧
        (textIntake bytes).excess capacity element = match element with
          | .string _ => .capacity ⟨.elementCount, capacity + 1, capacity⟩
          | other => .field (.wrongType "string" other.typeName)) ∧
    ∀ {α : Type} (decode : Record → Except ConfigError α),
      StopsFirst (objectIntake decode) name elements
        (fun record => (objects record name decode : Except ConfigError (BoundedList α capacity)))
        record ∧
      ∀ element,
        (∀ item, (objectIntake decode).convert element = .ok item ↔
          element.isObject = true ∧ decode (.ofValue element) = .ok item) ∧
        (objectIntake decode).excess capacity element =
          match (objectIntake decode).convert element with
          | .error cause => cause
          | .ok _ => .capacity ⟨.elementCount, capacity + 1, capacity⟩ := by
  constructor
  · intro bytes
    refine ⟨?_, fun element => ⟨textIntake_converts_iff element,
      textIntake_excess bytes capacity element⟩⟩
    simp only [texts_collect]
    exact collect_stopsFirst (textIntake bytes) record name elements listed
  · intro α decode
    refine ⟨?_, fun element => ⟨objectIntake_converts_iff decode element,
      objectIntake_excess decode capacity element⟩⟩
    simp only [objects_collect]
    exact collect_stopsFirst (objectIntake decode) record name elements listed

/-- A text of ten bytes that is one too many is not measured against the limit of eight. -/
example : (texts (.ofValue (.object [("groups", .array [.string "admin", .string "developers"])]))
    "groups" : Except ConfigError (BoundedList (BoundedText 8) 1)) =
      .error (.within "groups" (.within "[1]" (.capacity ⟨.elementCount, 2, 1⟩))) := rfl

/-- A number where a list of one text has no room left. -/
def strayNumber : Json := .object [("groups", .array [.string "admin", .ofUInt64 7])]

theorem strayNumber_stops :
    (Record.ofValue strayNumber).get? "groups" =
        some (.array [.string "admin", .ofUInt64 7]) ∧
      StopsFirst (textIntake 8) "groups" [.string "admin", .ofUInt64 7]
        (fun record =>
          (texts record "groups" : Except ConfigError (BoundedList (BoundedText 8) 1)))
        (.ofValue strayNumber) ∧
      (texts (.ofValue strayNumber) "groups" :
          Except ConfigError (BoundedList (BoundedText 8) 1)) =
        .error (.within "groups" (.within "[1]" (.field (.wrongType "string" "number")))) := by
  have listed : (Record.ofValue strayNumber).get? "groups" =
      some (.array [.string "admin", .ofUInt64 7]) := rfl
  exact ⟨listed, ((arrays_stop_first _ "groups" _ 1 listed).1 8).1, rfl⟩

end NodePolicy.Decode
