import NodePolicy.Bounded
import NodePolicy.Config.Error
import NodePolicy.Record.Basic

/-!
What the outcome of a composed reading says about its parts. A sequence succeeds when every part
does and fails with the first failure; a segment changes the error and nothing else; a bounded list
that took an element holds it behind all that it held before.
-/

namespace NodePolicy

section Sequence
variable {ε ε' α β : Type}

theorem bind_ok_iff (first : Except ε α) (next : α → Except ε β) (last : β) :
    (first >>= next) = .ok last ↔ ∃ middle, first = .ok middle ∧ next middle = .ok last := by
  cases first with
  | error cause =>
      constructor
      · intro succeeds
        cases succeeds
      · rintro ⟨middle, succeeds, _⟩
        cases succeeds
  | ok middle =>
      constructor
      · intro succeeds
        exact ⟨middle, rfl, succeeds⟩
      · rintro ⟨_, same, succeeds⟩
        cases same
        exact succeeds

theorem bind_error_iff (first : Except ε α) (next : α → Except ε β) (cause : ε) :
    (first >>= next) = .error cause ↔
      first = .error cause ∨ ∃ middle, first = .ok middle ∧ next middle = .error cause := by
  cases first with
  | error earlier =>
      constructor
      · intro fails
        cases fails
        exact Or.inl rfl
      · rintro (fails | ⟨middle, succeeds, _⟩)
        · cases fails
          rfl
        · cases succeeds
  | ok middle =>
      constructor
      · intro fails
        exact Or.inr ⟨middle, rfl, fails⟩
      · rintro (fails | ⟨_, same, fails⟩)
        · cases fails
        · cases same
          exact fails

theorem pure_ok_iff (value last : α) : (pure value : Except ε α) = .ok last ↔ value = last := by
  constructor
  · intro same
    cases same
    rfl
  · rintro rfl
    rfl

theorem pure_ne_error (value : α) (cause : ε) : (pure value : Except ε α) ≠ .error cause := by
  intro fails
  cases fails

theorem map_ok_iff (result : Except ε α) (change : α → β) (last : β) :
    result.map change = .ok last ↔ ∃ value, result = .ok value ∧ change value = last := by
  cases result <;> simp [Except.map]

theorem toOption_eq_some_iff (result : Except ε α) (value : α) :
    result.toOption = some value ↔ result = .ok value := by
  cases result <;> simp [Except.toOption]

theorem mapError_ok_iff (result : Except ε α) (wrap : ε → ε') (value : α) :
    result.mapError wrap = .ok value ↔ result = .ok value := by
  cases result with
  | error cause =>
      constructor
      · intro succeeds
        cases succeeds
      · intro succeeds
        cases succeeds
  | ok found =>
      constructor
      · intro same
        cases same
        rfl
      · intro same
        cases same
        rfl

theorem mapError_error_iff (result : Except ε α) (wrap : ε → ε') (cause : ε') :
    result.mapError wrap = .error cause ↔ ∃ inner, result = .error inner ∧ wrap inner = cause := by
  cases result with
  | error inner =>
      constructor
      · intro same
        cases same
        exact ⟨inner, rfl, rfl⟩
      · rintro ⟨_, same, rfl⟩
        cases same
        rfl
  | ok found =>
      constructor
      · intro fails
        cases fails
      · rintro ⟨_, fails, _⟩
        cases fails

theorem inside_ok_iff (segment : String) (result : Except ConfigError α) (value : α) :
    inside segment result = .ok value ↔ result = .ok value :=
  mapError_ok_iff result (ConfigError.within segment) value

theorem inside_error_iff (segment : String) (result : Except ConfigError α) (cause : ConfigError) :
    inside segment result = .error cause ↔
      ∃ inner, result = .error inner ∧ .within segment inner = cause :=
  mapError_error_iff result (ConfigError.within segment) cause

end Sequence

section Bounded
variable {α : Type} {bytes capacity : Nat}

theorem BoundedText.ext (first second : BoundedText bytes) (same : first.text = second.text) :
    first = second := by
  cases first; cases second; cases same; rfl

theorem BoundedList.ext (first second : BoundedList α capacity)
    (same : first.items = second.items) : first = second := by
  cases first; cases second; cases same; rfl

theorem ofText_ok_iff (text : String) (bounded : BoundedText bytes) :
    BoundedText.ofText text = .ok bounded ↔ bounded.text = text := by
  constructor
  · intro made
    rw [BoundedText.ofText] at made
    split at made
    · cases made
      rfl
    · cases made
  · rintro rfl
    exact BoundedText.ofText_text bounded

theorem ofText_error (text : String) (cause : CapacityError)
    (refused : (BoundedText.ofText text : Except CapacityError (BoundedText bytes)) =
      .error cause) :
    cause = ⟨.textBytes, text.utf8ByteSize, bytes⟩ ∧ bytes < text.utf8ByteSize := by
  rw [BoundedText.ofText] at refused
  split at refused
  · cases refused
  · next tooLong =>
      cases refused
      exact ⟨rfl, Nat.lt_of_not_le tooLong⟩

theorem push_ok_iff (list next : BoundedList α capacity) (item : α) :
    list.push item = .ok next ↔ next.items = list.items ++ [item] := by
  constructor
  · intro pushed
    rw [BoundedList.push] at pushed
    split at pushed
    · cases pushed
      rfl
    · cases pushed
  · -- The longer list keeps its limit, so there was room in the shorter one.
    intro items
    have fits := next.fits
    rw [items, List.length_append, List.length_singleton] at fits
    rw [BoundedList.push, dif_pos (Nat.lt_of_succ_le fits)]
    exact congrArg Except.ok (BoundedList.ext _ next items.symm)

theorem push_error (list : BoundedList α capacity) (item : α) (cause : CapacityError)
    (refused : list.push item = .error cause) :
    cause = ⟨.elementCount, capacity + 1, capacity⟩ ∧ list.items.length = capacity := by
  have fits := list.fits
  rw [BoundedList.push] at refused
  split at refused
  · cases refused
  · next noRoom =>
      have full : list.items.length = capacity := by omega
      cases refused
      exact ⟨by rw [full], full⟩

theorem isFull_iff (list : BoundedList α capacity) :
    list.isFull = true ↔ list.items.length = capacity := by
  have fits := list.fits
  rw [BoundedList.isFull, BoundedList.size, decide_eq_true_iff]
  omega

theorem pushText_ok_iff (list next : BoundedList (BoundedText bytes) capacity) (text : String) :
    list.pushText text = .ok next ↔
      ∃ item : BoundedText bytes, item.text = text ∧ next.items = list.items ++ [item] := by
  by_cases full : list.isFull = true
  · rw [BoundedList.pushText, if_pos full]
    constructor
    · intro pushed
      cases pushed
    · -- A full list with one element more would break its own limit.
      rintro ⟨item, _, items⟩
      have fits := next.fits
      rw [items, List.length_append, List.length_singleton] at fits
      have length := (isFull_iff list).mp full
      omega
  · rw [BoundedList.pushText, if_neg full, bind_ok_iff]
    simp only [ofText_ok_iff, push_ok_iff]

theorem pushText_error (list : BoundedList (BoundedText bytes) capacity) (text : String)
    (cause : CapacityError) (refused : list.pushText text = .error cause) :
    (cause = ⟨.elementCount, capacity + 1, capacity⟩ ∧ list.items.length = capacity) ∨
      (cause = ⟨.textBytes, text.utf8ByteSize, bytes⟩ ∧ bytes < text.utf8ByteSize) := by
  by_cases full : list.isFull = true
  · rw [BoundedList.pushText, if_pos full] at refused
    have size : list.size = capacity := (isFull_iff list).mp full
    cases refused
    exact Or.inl ⟨by rw [size], size⟩
  · rw [BoundedList.pushText, if_neg full, bind_error_iff] at refused
    rcases refused with long | ⟨item, _, noRoom⟩
    · exact Or.inr (ofText_error text cause long)
    · exact Or.inl (push_error list item cause noRoom)

end Bounded

theorem ofObject_ok_iff (value : Json) (record : Record) :
    Record.ofObject value = .ok record ↔
      value.isObject = true ∧ record = Record.ofValue value := by
  rw [Record.ofObject]
  split
  · next object =>
      constructor
      · intro made
        cases made
        exact ⟨object, rfl⟩
      · rintro ⟨_, rfl⟩
        rfl
  · next other =>
      constructor
      · intro made
        cases made
      · rintro ⟨object, _⟩
        exact absurd object other

theorem ofObject_error (value : Json) (cause : FieldError)
    (refused : Record.ofObject value = .error cause) : cause = .notAnObject value.typeName := by
  rw [Record.ofObject] at refused
  split at refused
  · cases refused
  · cases refused
    rfl

theorem extract_ok_iff {α : Type} (shape : Shape α) (value : Json) (content : α) :
    shape.extract value = .ok content ↔ shape.read? value = some content := by
  rw [Shape.extract]
  cases shape.read? value <;> simp

theorem extract_error {α : Type} (shape : Shape α) (value : Json) (cause : FieldError)
    (refused : shape.extract value = .error cause) :
    cause = .wrongType shape.name value.typeName := by
  rw [Shape.extract] at refused
  cases found : shape.read? value with
  | some content =>
      rw [found] at refused
      cases refused
  | none =>
      rw [found] at refused
      cases refused
      rfl

end NodePolicy
