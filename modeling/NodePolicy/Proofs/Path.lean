import Mathlib.Data.List.SplitBy
import NodePolicy.Config.Error
import NodePolicy.Config.Key
import NodePolicy.Proofs.Digits
import NodePolicy.Proofs.Schema

/-!
The path of an error, read as directions. A path falls into pieces before every dot and every
bracket; each piece is one step into a value, by the name of a member or by the index of an element.
No name of the library has a dot or a bracket in it, so the path written for a list of steps reads
as those steps and no others.
-/

namespace NodePolicy

inductive Step where
  | member (name : String)
  | element (index : Nat)
  deriving DecidableEq, Repr

def Json.child? (value : Json) : Step → Option Json
  | .member name => value.member? name
  | .element index => value.elements?.bind fun elements => elements[index]?

def Json.follow? (value : Json) : List Step → Option Json
  | [] => some value
  | step :: rest => (value.child? step).bind fun inner => inner.follow? rest

def Step.segment : Step → String
  | member name => name
  | element index => ConfigError.element index

/-- Members are asked for by names of the library only. -/
def Step.Known : Step → Prop
  | member name => name ∈ Key.all
  | element _ => True

namespace Path

def opens (c : Char) : Bool := c == '.' || c == '['

/-- A path cut before every dot and every bracket. -/
def pieces (path : List Char) : List (List Char) := path.splitBy fun _ next => !opens next

def step? : List Char → Option Step
  | '.' :: name => some (.member (String.ofList name))
  | '[' :: index =>
    if index.getLast? = some ']' then (Text.readNatural? index.dropLast).map .element else none
  | name => some (.member (String.ofList name))

def read? (path : String) : Option (List Step) := (pieces path.toList).mapM step?

def segmentChars : Step → List Char
  | .member name => name.toList
  | .element index => '[' :: (Text.naturalDigits index ++ [']'])

def laterPiece : Step → List Char
  | .member name => '.' :: name.toList
  | .element index => segmentChars (.element index)

theorem segment_chars (step : Step) : step.segment.toList = segmentChars step := by
  cases step with
  | member name => rfl
  | element index =>
      simp [Step.segment, ConfigError.element, segmentChars, Text.naturalDigits]
      rfl

/-- No name of the library opens a piece inside itself. -/
theorem known_name_plain (name : String) (known : name ∈ Key.all) :
    ∃ head tail, name.toList = head :: tail ∧ ∀ c ∈ head :: tail, opens c = false := by
  have plain : (Key.all.all fun name => !name.toList.isEmpty && !name.toList.any opens) = true := by
    decide +kernel
  have own := List.all_eq_true.mp plain name known
  cases chars : name.toList with
  | nil =>
      rw [chars] at own
      cases own
  | cons head tail =>
      refine ⟨head, tail, rfl, ?_⟩
      intro c member
      rw [chars, List.isEmpty_cons, Bool.not_false, Bool.true_and, Bool.not_eq_true'] at own
      exact Bool.eq_false_iff.mpr (List.any_eq_false.mp own c member)

theorem digit_not_opens (c : Char) (digit : c.isDigit = true) : opens c = false := by
  by_cases dot : c = '.'
  · subst dot
    cases digit
  · by_cases bracket : c = '['
    · subst bracket
      cases digit
    · simp [opens, dot, bracket]

theorem index_tail_closed (index : Nat) :
    ∀ c ∈ Text.naturalDigits index ++ [']'], opens c = false := by
  intro c member
  rcases List.mem_append.mp member with digit | last
  · exact digit_not_opens c (Text.naturalDigits_ascii index c digit)
  · rw [List.mem_singleton.mp last]
    rfl

theorem laterPiece_opens (step : Step) (known : step.Known) :
    ∃ head tail, laterPiece step = head :: tail ∧ opens head = true ∧
      ∀ c ∈ tail, opens c = false := by
  cases step with
  | member name =>
      obtain ⟨head, tail, chars, closed⟩ := known_name_plain name known
      refine ⟨'.', name.toList, rfl, rfl, ?_⟩
      rw [chars]
      exact closed
  | element index => exact ⟨'[', _, rfl, rfl, index_tail_closed index⟩

theorem segmentChars_closed (step : Step) (known : step.Known) :
    ∃ head tail, segmentChars step = head :: tail ∧ ∀ c ∈ tail, opens c = false := by
  cases step with
  | member name =>
      obtain ⟨head, tail, chars, closed⟩ := known_name_plain name known
      exact ⟨head, tail, chars, fun c member => closed c (List.mem_cons_of_mem head member)⟩
  | element index => exact ⟨'[', _, rfl, index_tail_closed index⟩

theorem closed_chain (head : Char) (tail : List Char) (closed : ∀ c ∈ tail, opens c = false) :
    (head :: tail).IsChain fun _ next => (!opens next) = true := by
  induction tail generalizing head with
  | nil => exact List.IsChain.singleton head
  | cons next rest ih =>
      rw [List.isChain_cons_cons]
      constructor
      · rw [closed next List.mem_cons_self]
        rfl
      · exact ih next fun c member => closed c (List.mem_cons_of_mem next member)

theorem cuts_chain (front : List Char) (nonempty : front ≠ []) (later : List Step)
    (known : ∀ step ∈ later, step.Known) :
    (front :: later.map laterPiece).IsChain fun piece next =>
      ∃ before after, (fun _ c => !opens c) (piece.getLast before) (next.head after) = false := by
  -- A cut depends on the first character behind it only, so the piece in front is arbitrary.
  induction later generalizing front with
  | nil => exact List.IsChain.singleton front
  | cons step rest ih =>
      obtain ⟨head, tail, chars, opening, _⟩ :=
        laterPiece_opens step (known step List.mem_cons_self)
      have next : laterPiece step ≠ [] := by
        rw [chars]
        exact List.cons_ne_nil head tail
      rw [List.map_cons, List.isChain_cons_cons]
      constructor
      · exact ⟨nonempty, next, by simp [chars, opening]⟩
      · exact ih (laterPiece step) next fun other member =>
          known other (List.mem_cons_of_mem step member)

/-- The cuts between pieces are where they were joined. -/
theorem pieces_joined (first : Step) (knownFirst : first.Known) (later : List Step)
    (known : ∀ step ∈ later, step.Known) :
    pieces (segmentChars first ++ later.flatMap laterPiece) =
      segmentChars first :: later.map laterPiece := by
  obtain ⟨head, tail, chars, closed⟩ := segmentChars_closed first knownFirst
  have joined : segmentChars first ++ later.flatMap laterPiece =
      (segmentChars first :: later.map laterPiece).flatten := by
    rw [List.flatten_cons, List.flatMap_def]
  have opened : ∀ piece ∈ later.map laterPiece, ∃ head tail, piece = head :: tail ∧
      ∀ c ∈ tail, opens c = false := by
    intro piece member
    obtain ⟨step, inside, rfl⟩ := List.mem_map.mp member
    obtain ⟨head, tail, chars, _, closed⟩ := laterPiece_opens step (known step inside)
    exact ⟨head, tail, chars, closed⟩
  rw [joined, pieces]
  apply List.splitBy_flatten
  · intro empty
    rcases List.mem_cons.mp empty with none | inside
    · rw [chars] at none
      cases none
    · obtain ⟨_, _, none, _⟩ := opened [] inside
      cases none
  · intro piece member
    rcases List.mem_cons.mp member with rfl | inside
    · rw [chars]
      exact closed_chain head tail closed
    · obtain ⟨head, tail, rfl, closed⟩ := opened piece inside
      exact closed_chain head tail closed
  · apply cuts_chain _ _ later known
    rw [chars]
    exact List.cons_ne_nil head tail

theorem step_of_laterPiece (step : Step) : step? (laterPiece step) = some step := by
  cases step with
  | member name => exact congrArg (fun name => some (Step.member name)) String.ofList_toList
  | element index =>
      simp [laterPiece, segmentChars, step?, Text.readNatural_naturalDigits]

theorem step_of_segmentChars (step : Step) (known : step.Known) :
    step? (segmentChars step) = some step := by
  cases step with
  | member name =>
      obtain ⟨head, tail, chars, closed⟩ := known_name_plain name known
      have plain := closed head List.mem_cons_self
      have text : String.ofList (head :: tail) = name := by
        rw [← chars, String.ofList_toList]
      have reads : step? (head :: tail) = some (.member (String.ofList (head :: tail))) := by
        unfold step?
        split
        · next same =>
            rw [(List.cons.inj same).1] at plain
            cases plain
        · next same =>
            rw [(List.cons.inj same).1] at plain
            cases plain
        · rfl
      rw [segmentChars, chars, reads, text]
  | element index => exact step_of_laterPiece (.element index)

theorem steps_of_pieces (first : Step) (knownFirst : first.Known) (later : List Step) :
    (segmentChars first :: later.map laterPiece).mapM step? = some (first :: later) := by
  have each : (later.map laterPiece).mapM step? = some later := by
    induction later with
    | nil => rfl
    | cons step rest ih =>
        rw [List.map_cons, List.mapM_cons, step_of_laterPiece, ih]
        rfl
  rw [List.mapM_cons, step_of_segmentChars first knownFirst, each]
  rfl

theorem joinSegment_chars (path : String) (nonempty : path ≠ "") (step : Step)
    (known : step.Known) :
    (ConfigError.joinSegment path step.segment).toList = path.toList ++ laterPiece step := by
  have full : path.isEmpty = false := by simp [nonempty]
  cases step with
  | member name =>
      obtain ⟨head, tail, chars, closed⟩ := known_name_plain name known
      have plain := closed head List.mem_cons_self
      -- A name that began with a bracket would be taken for an index and get no dot.
      have unbracketed : name.startsWith "[" = false := by
        rw [String.startsWith_string_eq_false_iff, chars]
        intro starts
        have same : '[' = head := (List.cons_prefix_cons.mp starts).1
        rw [← same] at plain
        cases plain
      simp [Step.segment, ConfigError.joinSegment, full, unbracketed, laterPiece]
  | element index =>
      have bracketed : (Step.element index).segment.startsWith "[" = true := by
        rw [String.startsWith_string_iff, segment_chars, segmentChars]
        exact List.cons_prefix_cons.mpr ⟨rfl, List.nil_prefix⟩
      rw [ConfigError.joinSegment, full, bracketed, Bool.false_or, if_pos rfl,
        String.toList_append, segment_chars]
      rfl

theorem joined_chars (path : String) (nonempty : path ≠ "") (steps : List Step)
    (known : ∀ step ∈ steps, step.Known) :
    ((steps.map Step.segment).foldl ConfigError.joinSegment path).toList =
      path.toList ++ steps.flatMap laterPiece := by
  induction steps generalizing path with
  | nil => simp
  | cons step rest ih =>
      have longer := joinSegment_chars path nonempty step (known step List.mem_cons_self)
      -- A path that has characters keeps them, so the rest is joined to a path that has some too.
      have filled : ConfigError.joinSegment path step.segment ≠ "" := by
        intro empty
        rw [empty] at longer
        apply nonempty
        apply String.toList_eq_nil_iff.mp
        exact (List.append_eq_nil_iff.mp longer.symm).1
      rw [List.map_cons, List.foldl_cons,
        ih _ filled fun other member => known other (List.mem_cons_of_mem step member), longer,
        List.flatMap_cons, List.append_assoc]

/-- The path of an error reads as the steps that the error has its segments for. -/
theorem read_fieldPath (error : ConfigError) (steps : List Step)
    (segments : error.segments = steps.map Step.segment) (known : ∀ step ∈ steps, step.Known) :
    read? (error.fieldPath?.getD "") = some steps := by
  cases steps with
  | nil =>
      rw [ConfigError.fieldPath?, segments]
      rfl
  | cons first later =>
      have knownFirst := known first List.mem_cons_self
      have knownLater : ∀ step ∈ later, step.Known := fun step member =>
        known step (List.mem_cons_of_mem first member)
      obtain ⟨head, tail, chars, _⟩ := segmentChars_closed first knownFirst
      have nonempty : first.segment ≠ "" := by
        intro empty
        have none := segment_chars first
        rw [empty, chars] at none
        cases none
      have path := joined_chars first.segment nonempty later knownLater
      rw [segment_chars] at path
      have filled : ((later.map Step.segment).foldl ConfigError.joinSegment first.segment).isEmpty =
          false := by
        simp [← String.toList_eq_nil_iff, path, chars]
      have start : ConfigError.joinSegment "" first.segment = first.segment := by
        simp [ConfigError.joinSegment]
      rw [ConfigError.fieldPath?, segments, List.map_cons, List.foldl_cons, start]
      simp only [filled]
      rw [if_neg Bool.false_ne_true, Option.getD_some, read?, path,
        pieces_joined first knownFirst later knownLater, steps_of_pieces first knownFirst]

end Path

end NodePolicy
