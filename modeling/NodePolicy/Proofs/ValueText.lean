import NodePolicy.Proofs.FloatText
import NodePolicy.Proofs.ItemText

/-!
Values read back from their text, in every layout. Texts, integers, lists and objects come back as
they were written; a binary64 comes back as the number that its digits are read as.
-/

namespace NodePolicy

def Number.reread : Number → Number
  | .float x finite => .float x.reread (x.reread_finite finite)
  | other => other

namespace Json

def reread : Json → Json
  | number value => number value.reread
  | array elements => array (rereadElements elements)
  | object members => object (rereadMembers members)
  | value => value
where
  rereadElements : List Json → List Json
    | [] => []
    | element :: rest => reread element :: rereadElements rest
  rereadMembers : List (String × Json) → List (String × Json)
    | [] => []
    | (name, value) :: rest => (name, reread value) :: rereadMembers rest

def rereadMember (item : String × Json) : String × Json := (item.1, item.2.reread)

theorem reread_array (elements : List Json) :
    (array elements).reread = array (elements.map reread) := by
  rw [reread]
  congr 1
  induction elements with
  | nil => rfl
  | cons element rest ih => rw [reread.rereadElements, ih, List.map_cons]

theorem reread_object (members : List (String × Json)) :
    (object members).reread = object (members.map rereadMember) := by
  rw [reread]
  congr 1
  induction members with
  | nil => rfl
  | cons item rest ih => rw [reread.rereadMembers, ih, List.map_cons, rereadMember]

/-- Values that nest no deeper than so many lists and objects and repeat no name in an object. -/
def Regular : Nat → Json → Prop
  | 0, array _ => False
  | 0, object _ => False
  | depth + 1, array elements => ∀ element ∈ elements, Regular depth element
  | depth + 1, object members =>
    (members.map Prod.fst).Nodup ∧ ∀ item ∈ members, Regular depth item.2
  | _, _ => True

theorem regular_scalar (depth : Nat) (value : Json) (scalar : value.isScalar = true) :
    Regular depth value := by
  cases depth <;> cases value <;> trivial

namespace Reading

theorem run_number (value : Number) :
    Reads number (writeNumber value) value.reread := by
  intro rest ends
  cases value with
  | natural value => exact run_natural value rest ends
  | negative value below => exact run_negative value below rest ends
  | float value finite =>
      obtain ⟨_, read⟩ := value.run_reread finite
      exact read rest ends

theorem number_opens (text : List UInt8) (found : Number) (rest : List UInt8)
    (ran : number.run text = .ok (found, rest)) :
    ∃ byte more, text = byte :: more ∧ (byte = byteOf '-' || isDigit byte) = true := by
  cases text with
  | nil => cases ran
  | cons byte more =>
      refine ⟨byte, more, rfl, ?_⟩
      -- Any other first byte stops the reader.
      by_contra other
      rw [Bool.not_eq_true, Bool.or_eq_false_iff, decide_eq_false_iff_not] at other
      have sign : ¬ some byte = some (byteOf '-') := fun same => other.1 (Option.some.inj same)
      simp only [number, unsignedNumber, StateT.run_bind, run_peek, ok_bind, List.head?_cons,
        if_neg sign, run_next, other.2] at ran
      cases ran

theorem numeric_differs (byte : UInt8) (numeric : (byte = byteOf '-' || isDigit byte) = true)
    (other : UInt8) (outside : other.toNat < 45 ∨ 57 < other.toNat) : byte ≠ other := by
  have range : 45 ≤ byte.toNat ∧ byte.toNat ≤ 57 := by
    rcases Bool.or_eq_true_iff.mp numeric with sign | digit
    · rw [of_decide_eq_true sign]
      decide
    · simp only [isDigit, Bool.and_eq_true, decide_eq_true_eq, UInt8.le_iff_toNat_le] at digit
      obtain ⟨least, most⟩ := digit
      exact ⟨Nat.le_trans (by decide) least, most⟩
  rintro rfl
  omega

theorem numeric_solid (byte : UInt8) (numeric : (byte = byteOf '-' || isDigit byte) = true) :
    isSpace byte = false := by
  have differs := numeric_differs byte numeric
  simp only [isSpace, Bool.or_eq_false_iff, beq_eq_false_iff_ne]
  exact ⟨⟨⟨differs _ (by decide), differs _ (by decide)⟩, differs _ (by decide)⟩,
    differs _ (by decide)⟩

theorem run_value_number (size : Nat) (inner : Option (Reader Json)) (found : Number)
    (text rest : List UInt8) (read : number.run text = .ok (found, rest)) :
    (valueWith size inner).run text = .ok (.number found, rest) := by
  obtain ⟨byte, more, rfl, numeric⟩ := number_opens text found rest read
  have differs := numeric_differs byte numeric
  unfold valueWith
  rw [run_bind _ _ _ _ _ (run_token_solid _ _ (numeric_solid byte numeric))]
  simp only [if_neg (differs (byteOf 'n') (by decide)), if_neg (differs (byteOf 't') (by decide)),
    if_neg (differs (byteOf 'f') (by decide)), if_pos numeric]
  rw [run_bind _ _ _ _ _ read]
  rfl

theorem run_value_string (size : Nat) (inner : Option (Reader Json)) (text : String)
    (enough : (bytes (text.toList.flatMap escapedChar)).length < size) (rest : List UInt8) :
    (valueWith size inner).run (bytes (writeString text) ++ rest) = .ok (.string text, rest) := by
  have read := run_stringBody text size rest enough
  rw [bytes_writeString]
  show (do return .string (← stringBody size) : Reader Json).run
    (bytes (text.toList.flatMap escapedChar) ++ byteOf '"' :: rest) = _
  rw [run_bind _ _ _ _ _ read]
  rfl

theorem run_value_list (size : Nat) (inner : Reader Json) (text rest : List UInt8)
    (found : List Json) (read : (arrayRest inner size []).run text = .ok (found, rest)) :
    (valueWith size (some inner)).run (byteOf '[' :: text) = .ok (.array found, rest) := by
  show (do return .array (← arrayRest inner size []) : Reader Json).run text = _
  rw [run_bind _ _ _ _ _ read]
  rfl

theorem run_value_object (size : Nat) (inner : Reader Json) (text rest : List UInt8)
    (found : List (String × Json))
    (read : (objectRest inner size size true []).run text = .ok (found, rest)) :
    (valueWith size (some inner)).run (byteOf '\x7b' :: text) = .ok (.object found, rest) := by
  show (do return .object (← objectRest inner size size true []) : Reader Json).run text = _
  rw [run_bind _ _ _ _ _ read]
  rfl

theorem run_value_scalar (size : Nat) (inner : Option (Reader Json)) (value : Json)
    (scalar : value.isScalar = true) (enough : (bytes (compactChars value)).length < size) :
    Reads (valueWith size inner) (compactChars value) value.reread := by
  intro rest ends
  match value, scalar with
  | .null, _ => rfl
  | .boolean true, _ => rfl
  | .boolean false, _ => rfl
  | .number value, _ => exact run_value_number size inner _ _ rest (run_number value rest ends)
  | .string text, _ =>
      apply run_value_string size inner text _ rest
      have length := congrArg List.length (bytes_writeString text [])
      rw [List.append_nil, List.length_cons, List.length_append] at length
      rw [compactChars] at enough
      omega

/-- Blanks in front of a value do not matter. -/
theorem run_value_blank (size : Nat) (inner : Option (Reader Json)) (before : List Char)
    (blank : Blank before) (text : List Char) (opens : Opens text) (rest : List UInt8) :
    (valueWith size inner).run (bytes before ++ (bytes text ++ rest)) =
      (valueWith size inner).run (bytes text ++ rest) := by
  obtain ⟨byte, more, leads, solid, _⟩ := opens
  unfold valueWith
  rw [leads, List.cons_append, run_bind _ _ _ _ _ (run_token before blank byte _ solid),
    run_bind _ _ _ _ _ (run_token_solid byte _ solid)]

theorem scalar_opens (value : Json) (scalar : value.isScalar = true) :
    Opens (compactChars value) := by
  match value, scalar with
  | .null, _ => exact ⟨byteOf 'n', _, rfl, by decide, by decide⟩
  | .boolean true, _ => exact ⟨byteOf 't', _, rfl, by decide, by decide⟩
  | .boolean false, _ => exact ⟨byteOf 'f', _, rfl, by decide, by decide⟩
  | .number value, _ =>
      have read := run_number value [] endsNumber_nil
      obtain ⟨byte, more, leads, numeric⟩ := number_opens _ _ _ read
      rw [List.append_nil] at leads
      exact ⟨byte, more, leads, numeric_solid byte numeric,
        numeric_differs byte numeric _ (by decide)⟩
  | .string text, _ =>
      exact ⟨byteOf '"', _, bytes_cons_ascii '"' _ (by decide), by decide, by decide⟩

theorem bracket_opens (text : List Char) : Opens ('[' :: text) :=
  ⟨byteOf '[', _, bytes_cons_ascii '[' text (by decide), by decide, by decide⟩

theorem brace_opens (text : List Char) : Opens ('\x7b' :: text) :=
  ⟨byteOf '\x7b', _, bytes_cons_ascii '\x7b' text (by decide), by decide, by decide⟩

theorem write_opens (layout : Layout) (level : Nat) (value : Json) :
    Opens (layout.write level value) := by
  cases shape : value.isScalar with
  | true =>
      rw [layout.scalar level value shape]
      exact scalar_opens value shape
  | false =>
      match value, shape with
      | .array [], _ =>
          rw [layout.emptyArray]
          exact bracket_opens _
      | .array (first :: items), _ =>
          rw [layout.array]
          exact bracket_opens _
      | .object [], _ =>
          rw [layout.emptyObject]
          exact brace_opens _
      | .object (first :: items), _ =>
          rw [layout.object]
          exact brace_opens _

theorem reads_behind_blank (size depth : Nat) (before : List Char) (blank : Blank before)
    (text : List Char) (opens : Opens text) (found : Json)
    (reads : Reads (value size depth) text found) :
    Reads (value size depth) (before ++ text) found := by
  intro rest ends
  rw [bytes_append, List.append_assoc, ← reads rest ends]
  cases depth with
  | zero => exact run_value_blank size none before blank text opens rest
  | succ depth => exact run_value_blank size _ before blank text opens rest

section Written
variable (layout : Layout) (size depth : Nat)

/-- Every value that nests no deeper than `depth` is read back, at any level of indentation. -/
def ReadsBack : Prop :=
  ∀ value, Regular depth value → ∀ level, (bytes (layout.write level value)).length < size →
    Reads (Reading.value size depth) (layout.write level value) value.reread

variable (inner : ReadsBack layout size depth)
include inner

theorem run_written_list (elements : List Json)
    (regular : ∀ element ∈ elements, Regular depth element) (level : Nat)
    (enough : (bytes (layout.write level (.array elements))).length < size) :
    Reads (Reading.value size (depth + 1)) (layout.write level (.array elements))
      (.array (elements.map reread)) := by
  intro rest ends
  cases elements with
  | nil =>
      rw [layout.emptyArray] at enough ⊢
      obtain ⟨left, rfl⟩ := Nat.exists_eq_succ_of_ne_zero (Nat.ne_zero_of_lt enough)
      exact run_value_list _ _ _ rest []
        (run_array_close _ [] Layout.blank_nil left [] rest)
  | cons first items =>
      rw [layout.array] at enough ⊢
      obtain ⟨count, each⟩ := separated_length _ _ _ '[' ']' (by decide) first items size enough
      rw [List.cons_append, bytes_cons_ascii '[' _ (by decide)]
      apply run_value_list
      apply run_list _ _ _ (layout.lineStart_blank _) (layout.lineStart_blank _) _ reread _ _ _
        count
      intro item member
      exact ⟨write_opens layout _ item, inner item (regular item member) _ (each item member)⟩

theorem run_written_object (members : List (String × Json))
    (distinct : (members.map Prod.fst).Nodup)
    (regular : ∀ item ∈ members, Regular depth item.2) (level : Nat)
    (enough : (bytes (layout.write level (.object members))).length < size) :
    Reads (Reading.value size (depth + 1)) (layout.write level (.object members))
      (.object (members.map rereadMember)) := by
  intro rest ends
  cases members with
  | nil =>
      rw [layout.emptyObject] at enough ⊢
      obtain ⟨left, rfl⟩ := Nat.exists_eq_succ_of_ne_zero (Nat.ne_zero_of_lt enough)
      exact run_value_object _ _ _ rest []
        (run_object_close _ _ [] Layout.blank_nil left true [] rest)
  | cons first items =>
      rw [layout.object] at enough ⊢
      obtain ⟨count, each⟩ :=
        separated_length _ _ _ '\x7b' '\x7d' (by decide) first items size enough
      rw [List.cons_append, bytes_cons_ascii '\x7b' _ (by decide)]
      apply run_value_object
      have names : (((first :: items).map rereadMember).map Prod.fst).Nodup := by
        rw [List.map_map]
        exact distinct
      apply run_object _ _ _ _ (layout.lineStart_blank _) (layout.lineStart_blank _) _ rereadMember
        _ _ _ count _ names
      intro item member
      obtain ⟨nameFits, valueFits⟩ := member_length _ _ _ (each item member)
      rw [bytes_append, List.length_append] at valueFits
      have read := inner item.2 (regular item member) (level + 1) (by omega)
      exact ⟨quoted_member _ _ item, run_member _ size item.1 _ _ nameFits
        (reads_behind_blank size depth _ layout.afterColon_blank _ (write_opens layout _ item.2) _
          read)⟩

end Written

/-- Lists and objects are read back because the values one level below are. -/
theorem reads_back (layout : Layout) (size depth : Nat) : ReadsBack layout size depth := by
  induction depth with
  | zero =>
      intro value regular level enough
      have scalar : value.isScalar = true := by
        cases value with
        | array _ => cases regular
        | object _ => cases regular
        | _ => rfl
      rw [layout.scalar level value scalar] at enough ⊢
      exact run_value_scalar size none value scalar enough
  | succ depth inner =>
      intro value regular level enough
      cases shape : value.isScalar with
      | true =>
          rw [layout.scalar level value shape] at enough ⊢
          exact run_value_scalar size _ value shape enough
      | false =>
          match value, shape with
          | .array elements, _ =>
              rw [reread_array]
              exact run_written_list layout size depth inner elements regular level enough
          | .object members, _ =>
              rw [reread_object]
              exact run_written_object layout size depth inner members regular.1 regular.2 level
                enough

end Reading

/-- A written document is read back, in every layout and whatever blanks stand behind it. -/
theorem readBytes_written (layout : Layout) (value : Json)
    (regular : Regular Reading.maxDepth value) (behind : List Char) (blank : Blank behind) :
    readBytes (bytes (layout.write 0 value ++ behind)) = .ok value.reread := by
  have enough : (bytes (layout.write 0 value)).length <
      (bytes (layout.write 0 value ++ behind)).length + 1 := by
    rw [bytes_append, List.length_append]
    omega
  have ends : Reading.EndsNumber (bytes behind) := by
    have nothing := Reading.ends_behind_blank behind blank [] Reading.endsNumber_nil
    rwa [List.append_nil] at nothing
  have back := Reading.reads_back layout _ Reading.maxDepth value regular 0 enough _ ends
  rw [← bytes_append] at back
  have document : (Reading.document ((bytes (layout.write 0 value ++ behind)).length + 1)).run
      (bytes (layout.write 0 value ++ behind)) = .ok (value.reread, []) := by
    rw [Reading.document, Reading.run_bind _ _ _ _ _ back,
      Reading.run_bind _ _ _ _ _ (Reading.run_token_end behind blank)]
    rfl
  rw [readBytes]
  rw [StateT.run] at document
  simp only [StateT.run, document]

theorem read_written (layout : Layout) (value : Json) (regular : Regular Reading.maxDepth value) :
    read (String.ofList (layout.write 0 value)) = .ok value.reread := by
  have back := readBytes_written layout value regular [] Layout.blank_nil
  rw [List.append_nil] at back
  rw [read, bytes_ofList, back]

end Json

end NodePolicy
