import NodePolicy.Proofs.ErrorPlace

/-!
Message, path and kind of one error. The path is joined segment by segment and starts empty, while
the message starts from the outermost segment; both spell the same text, in which a dot stands where
a name follows on something. Cause and kind are what they are without any segment, and a segment
that is put around an error only comes to the front of its path.
-/

namespace NodePolicy

namespace ConfigError

/-- A segment as it stands behind others: after a dot, unless it opens with a bracket or there is no
text in front of it. -/
def dotted (before : List String) (segment : String) : String :=
  if (∃ earlier ∈ before, earlier ≠ "") ∧ segment.startsWith "[" = false then "." ++ segment
  else segment

def spelledPath (segments : List String) : String :=
  String.join (segments.mapIdx fun index segment => dotted (segments.take index) segment)

theorem dotted_first (before : List String) (segment : String)
    (empty : ∀ earlier ∈ before, earlier = "") : dotted before segment = segment := by
  rw [dotted, if_neg]
  rintro ⟨⟨earlier, member, some⟩, _⟩
  exact some (empty earlier member)

theorem spelledPath_snoc (segments : List String) (last : String) :
    spelledPath (segments ++ [last]) = spelledPath segments ++ dotted segments last := by
  -- What stands in front of a segment does not change when one more comes behind it.
  have front : (segments.mapIdx fun index segment =>
      dotted ((segments ++ [last]).take index) segment) =
        segments.mapIdx fun index segment => dotted (segments.take index) segment := by
    apply List.ext_getElem (by simp)
    intro index within _
    rw [List.length_mapIdx] at within
    simp only [List.getElem_mapIdx, List.take_append_of_le_length (Nat.le_of_lt within)]
  rw [spelledPath, List.mapIdx_concat, front, List.take_left, String.join_append, spelledPath]
  simp

theorem spelledPath_empty_iff (segments : List String) :
    spelledPath segments = "" ↔ ∀ segment ∈ segments, segment = "" := by
  induction segments using List.reverseRecOn with
  | nil => simp [spelledPath]
  | append_singleton before last ih =>
      rw [spelledPath_snoc, ← String.toList_eq_nil_iff, String.toList_append,
        List.append_eq_nil_iff, String.toList_eq_nil_iff, String.toList_eq_nil_iff, ih]
      simp only [List.mem_append, List.mem_singleton, or_imp, forall_and, forall_eq]
      apply and_congr_right
      intro empty
      rw [dotted_first before last empty]

theorem joinSegment_spelled (before : List String) (segment : String) :
    joinSegment (spelledPath before) segment = spelledPath before ++ dotted before segment := by
  by_cases empty : ∀ earlier ∈ before, earlier = ""
  · have nothing := (spelledPath_empty_iff before).mpr empty
    rw [dotted_first before segment empty, joinSegment, nothing]
    rfl
  · have filled : (spelledPath before).isEmpty = false := by
      simpa using mt (spelledPath_empty_iff before).mp empty
    have some : ∃ earlier ∈ before, earlier ≠ "" := by simpa using empty
    cases bracket : segment.startsWith "[" with
    | true =>
        rw [joinSegment, filled, bracket, Bool.or_true, if_pos rfl, dotted, bracket,
          if_neg (fun both => Bool.noConfusion both.2)]
    | false =>
        rw [joinSegment, filled, bracket, Bool.or_false, if_neg Bool.false_ne_true, dotted,
          if_pos ⟨some, bracket⟩, String.append_assoc]

/-- Joining keeps the text before it, so a path is spelled as it grows. -/
theorem foldl_joinSegment (segments : List String) :
    segments.foldl joinSegment "" = spelledPath segments := by
  induction segments using List.reverseRecOn with
  | nil => rfl
  | append_singleton before last ih =>
      rw [List.foldl_append, ih, List.foldl_cons, List.foldl_nil, joinSegment_spelled,
        spelledPath_snoc]

theorem fieldPath?_spelled (error : ConfigError) :
    error.fieldPath? =
      if spelledPath error.segments = "" then none else some (spelledPath error.segments) := by
  rw [fieldPath?, foldl_joinSegment]
  simp

theorem fieldPath?_getD (error : ConfigError) :
    error.fieldPath?.getD "" = spelledPath error.segments := by
  rw [fieldPath?_spelled]
  split
  · next empty => exact empty.symm
  · rfl

theorem message_rootCause (error : ConfigError) : error.rootCause.message = error.causeMessage := by
  induction error with
  | within segment cause ih => exact ih
  | malformed _ => rfl
  | field _ => rfl
  | capacity _ => rfl
  | duration _ => rfl
  | failed _ => rfl

/-- The message starts from the outermost segment, which is what an empty path becomes with it. -/
theorem message_within (segment : String) (cause : ConfigError) :
    (within segment cause).message =
      (within segment cause).fieldPath?.getD "" ++ ": " ++ (within segment cause).rootCause.message := by
  have start : joinSegment "" segment = segment := String.empty_append
  have joined : cause.segments.foldl joinSegment segment =
      spelledPath (within segment cause).segments := by
    rw [← foldl_joinSegment, segments, List.foldl_cons, start]
  rw [fieldPath?_getD, message_rootCause, ← joined]
  rfl

section Wrapping
variable {α : Type}

/-- A result after the segments of some steps were put around it, the innermost first. -/
def insideAll (steps : List Step) (result : Except ConfigError α) : Except ConfigError α :=
  steps.foldl (fun result step => inside step.segment result) result

theorem insideAll_ok (steps : List Step) (value : α) :
    insideAll steps (.ok value) = .ok value := by
  induction steps with
  | nil => rfl
  | cons step rest ih => exact ih

theorem insideAll_error (steps : List Step) (error : ConfigError) :
    ∃ outer, insideAll steps (.error error : Except ConfigError α) = .error outer ∧
      outer.segments = (steps.map Step.segment).reverse ++ error.segments ∧
      outer.rootCause = error.rootCause := by
  -- Every step puts its segment in front of those that are around the error by then.
  induction steps generalizing error with
  | nil => exact ⟨error, rfl, rfl, rfl⟩
  | cons step rest ih =>
      obtain ⟨outer, wrapped, path, root⟩ := ih (.within step.segment error)
      refine ⟨outer, wrapped, ?_, root⟩
      rw [path, segments, List.map_cons, List.reverse_cons, List.append_assoc,
        List.singleton_append]

end Wrapping

/-- The message of an error is its path, if it has segments, and the message of its cause; its kind
is that of the cause; and what is put around it step by step, from the inside out, comes outermost
first in its path, with a dot in front of every segment that has text before it and is no index. -/
theorem message_path_kind (error : ConfigError) :
    error.message = (match error with
      | .within _ _ => error.fieldPath?.getD "" ++ ": " ++ error.rootCause.message
      | _ => error.rootCause.message) ∧
    error.kind = error.rootCause.kind ∧
    ∀ {α : Type} (steps : List Step),
      (∀ value : α, insideAll steps (.ok value) = .ok value) ∧
      ∃ outer, insideAll steps (.error error : Except ConfigError α) = .error outer ∧
        outer.rootCause = error.rootCause ∧
        outer.segments = (steps.map Step.segment).reverse ++ error.segments ∧
        outer.fieldPath? =
          if spelledPath outer.segments = "" then none else some (spelledPath outer.segments) := by
  refine ⟨?_, Decode.kind_rootCause error, fun steps => ⟨insideAll_ok steps, ?_⟩⟩
  · cases error with
    | within segment cause => exact message_within segment cause
    | malformed _ => rfl
    | field _ => rfl
    | capacity _ => rfl
    | duration _ => rfl
    | failed _ => rfl
  · obtain ⟨outer, wrapped, path, root⟩ := insideAll_error steps error
    exact ⟨outer, wrapped, root, path, outer.fieldPath?_spelled⟩

/-- Segments without text get no dot, and leave one to those behind them. -/
example :
    spelledPath ["", "[0]", "", "name", "[3]", "options"] = "[0]..name[3].options" := by
  decide +kernel

end ConfigError

end NodePolicy
