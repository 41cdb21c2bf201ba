import Mathlib.Data.List.TakeWhile
import NodePolicy.Json.Reader
import NodePolicy.Proofs.Layout
import NodePolicy.Proofs.NumberText
import NodePolicy.Proofs.StringText

/-!
Lists and objects read back from their text, given that their elements and members are. Behind the
first item a text goes on with commas, blanks and further items, which is what the loops of the
reader take one by one.
-/

namespace NodePolicy.Json

theorem insertMember_new (members : List (String × Json)) (name : String) (value : Json)
    (absent : name ∉ members.map Prod.fst) :
    insertMember members name value = members ++ [(name, value)] := by
  induction members with
  | nil => rfl
  | cons item rest ih =>
      rw [List.map_cons, List.mem_cons, not_or] at absent
      rw [insertMember, if_neg (Ne.symm absent.1), ih absent.2, List.cons_append]

namespace Reading

theorem bytes_blank (text : List Char) (blank : Blank text) :
    ∀ byte ∈ bytes text, isSpace byte = true := by
  intro byte member
  obtain ⟨c, listed, encoded⟩ := List.mem_flatMap.mp member
  rcases blank c listed with rfl | rfl
  · rw [utf8EncodeChar_ascii ' ' (by decide), List.mem_singleton] at encoded
    rw [encoded]
    decide
  · rw [utf8EncodeChar_ascii '\n' (by decide), List.mem_singleton] at encoded
    rw [encoded]
    decide

theorem run_token (before : List Char) (blank : Blank before) (byte : UInt8) (rest : List UInt8)
    (solid : isSpace byte = false) :
    peekToken.run (bytes before ++ byte :: rest) = .ok (some byte, byte :: rest) := by
  have skipped : skipSpace.run (bytes before ++ byte :: rest) = .ok ((), byte :: rest) := by
    show Except.ok _ = _
    rw [List.dropWhile_append_of_pos (bytes_blank before blank),
      List.dropWhile_cons_of_neg (by simp [solid])]
  rw [peekToken, run_bind _ _ _ _ _ skipped]
  rfl

theorem run_token_solid (byte : UInt8) (rest : List UInt8) (solid : isSpace byte = false) :
    peekToken.run (byte :: rest) = .ok (some byte, byte :: rest) :=
  run_token [] Layout.blank_nil byte rest solid

theorem run_token_end (text : List Char) (blank : Blank text) :
    peekToken.run (bytes text) = .ok (none, []) := by
  have skipped : skipSpace.run (bytes text) = .ok ((), []) := by
    show Except.ok _ = _
    rw [List.dropWhile_eq_nil_iff.mpr (bytes_blank text blank)]
  rw [peekToken, run_bind _ _ _ _ _ skipped]
  rfl

/-- A number does not go on in blanks and what stands behind them. -/
theorem ends_behind_blank (before : List Char) (blank : Blank before) (rest : List UInt8)
    (ends : EndsNumber rest) : EndsNumber (bytes before ++ rest) := by
  cases before with
  | nil => exact ends
  | cons c more =>
      rcases blank c List.mem_cons_self with rfl | rfl
      · rw [bytes_cons_ascii ' ' more (by decide)]
        exact endsNumber_cons _ _ (by decide)
      · rw [bytes_cons_ascii '\n' more (by decide)]
        exact endsNumber_cons _ _ (by decide)

theorem ends_bracket (rest : List UInt8) : EndsNumber (byteOf ']' :: rest) :=
  endsNumber_cons _ rest (by decide)

theorem ends_brace (rest : List UInt8) : EndsNumber (byteOf '\x7d' :: rest) :=
  endsNumber_cons _ rest (by decide)

/-- A reader finds a value in a text, behind which no number goes on. -/
def Reads {α : Type} (reader : Reader α) (text : List Char) (found : α) : Prop :=
  ∀ rest, EndsNumber rest → reader.run (bytes text ++ rest) = .ok (found, rest)

def Opens (text : List Char) : Prop :=
  ∃ byte rest, bytes text = byte :: rest ∧ isSpace byte = false ∧ byte ≠ byteOf ']'

def Quoted (text : List Char) : Prop := ∃ rest, bytes text = byteOf '"' :: rest

/-- What stands behind the first of several items: commas, blanks, further items, and blanks in
front of a closing bracket. -/
def itemsBehind {α : Type} (before : List Char) (text : α → List Char) (after : List Char)
    (closing : UInt8) (items : List α) (rest : List UInt8) : List UInt8 :=
  bytes (items.flatMap fun item => ',' :: (before ++ text item)) ++ (bytes after ++ closing :: rest)

theorem itemsBehind_cons {α : Type} (before : List Char) (text : α → List Char)
    (after : List Char) (closing : UInt8) (item : α) (items : List α) (rest : List UInt8) :
    itemsBehind before text after closing (item :: items) rest =
      byteOf ',' :: (bytes before ++ (bytes (text item) ++
        itemsBehind before text after closing items rest)) := by
  rw [itemsBehind, List.flatMap_cons, bytes_append, bytes_cons_ascii ',' _ (by decide),
    bytes_append, itemsBehind]
  simp only [List.cons_append, List.append_assoc]

theorem ends_itemsBehind {α : Type} (before : List Char) (text : α → List Char)
    (after : List Char) (blank : Blank after) (closing : UInt8)
    (ends : ∀ rest, EndsNumber (closing :: rest)) (items : List α) (rest : List UInt8) :
    EndsNumber (itemsBehind before text after closing items rest) := by
  cases items with
  | nil => exact ends_behind_blank after blank _ (ends rest)
  | cons item items =>
      rw [itemsBehind_cons]
      exact endsNumber_cons _ _ (by decide)

theorem bytes_separated {α : Type} (before : List Char) (text : α → List Char)
    (after : List Char) (closing : Char) (ascii : closing.toNat < 128) (first : α)
    (items : List α) (rest : List UInt8) :
    bytes (separated before text first items ++ after ++ [closing]) ++ rest =
      bytes before ++
        (bytes (text first) ++ itemsBehind before text after (byteOf closing) items rest) := by
  rw [separated, itemsBehind]
  simp only [bytes_append, bytes_cons_ascii closing [] ascii, bytes_nil, List.append_assoc,
    List.singleton_append]

section Elements
variable (element : Reader Json) (before after : List Char) (blankBefore : Blank before)
  (blankAfter : Blank after)

include blankAfter in
theorem run_array_close (limit : Nat) (found : List Json) (rest : List UInt8) :
    (arrayRest element (limit + 1) found).run (bytes after ++ byteOf ']' :: rest) =
      .ok (found.reverse, rest) := by
  rw [arrayRest, run_bind _ _ _ _ _ (run_token after blankAfter _ rest (by decide))]
  rfl

include blankBefore

theorem run_array_first (limit : Nat) (text : List Char) (opens : Opens text) (found : Json)
    (reads : Reads element text found) (rest : List UInt8) (ends : EndsNumber rest) :
    (arrayRest element (limit + 1) []).run (bytes before ++ (bytes text ++ rest)) =
      (arrayRest element limit [found]).run rest := by
  obtain ⟨byte, more, leads, solid, bracket⟩ := opens
  have read := reads rest ends
  rw [leads, List.cons_append] at read ⊢
  rw [arrayRest, run_bind _ _ _ _ _ (run_token before blankBefore _ _ solid)]
  simp only [if_neg bracket, List.isEmpty_nil, if_true]
  rw [run_bind _ _ _ _ _ read]

theorem run_array_next (limit : Nat) (earlier : List Json) (some : earlier ≠ [])
    (text : List Char) (opens : Opens text) (found : Json) (reads : Reads element text found)
    (rest : List UInt8) (ends : EndsNumber rest) :
    (arrayRest element (limit + 1) earlier).run
        (byteOf ',' :: (bytes before ++ (bytes text ++ rest))) =
      (arrayRest element limit (found :: earlier)).run rest := by
  obtain ⟨byte, more, leads, solid, bracket⟩ := opens
  have read := reads rest ends
  have comma : ¬ byteOf ',' = byteOf ']' := by decide
  have empty : earlier.isEmpty = false := List.isEmpty_eq_false_iff.mpr some
  rw [leads, List.cons_append] at read ⊢
  rw [arrayRest, run_bind _ _ _ _ _ (run_token_solid _ _ (by decide))]
  simp only [if_neg comma, empty, Bool.false_eq_true, if_false, if_true]
  rw [run_bind _ _ _ _ _ (run_skip _ _),
    run_bind _ _ _ _ _ (run_token before blankBefore _ _ solid)]
  simp only [if_neg bracket]
  rw [run_bind _ _ _ _ _ read]

variable {α : Type} (text : α → List Char) (content : α → Json)

include blankAfter in
theorem run_elements (items : List α) (limit : Nat) (enough : items.length < limit)
    (reads : ∀ item ∈ items, Opens (text item) ∧ Reads element (text item) (content item))
    (earlier : List Json) (some : earlier ≠ []) (rest : List UInt8) :
    (arrayRest element limit earlier).run (itemsBehind before text after (byteOf ']') items rest) =
      .ok (earlier.reverse ++ items.map content, rest) := by
  -- A turn of the loop takes one item and one unit of the limit; the last turn takes the bracket.
  induction items generalizing limit earlier with
  | nil =>
      obtain ⟨left, rfl⟩ := Nat.exists_eq_succ_of_ne_zero (Nat.ne_zero_of_lt enough)
      rw [List.map_nil, List.append_nil]
      exact run_array_close element after blankAfter left earlier rest
  | cons item items ih =>
      obtain ⟨left, rfl⟩ := Nat.exists_eq_succ_of_ne_zero (Nat.ne_zero_of_lt enough)
      obtain ⟨opens, read⟩ := reads item List.mem_cons_self
      rw [itemsBehind_cons, run_array_next element before blankBefore left earlier some _ opens _
        read _ (ends_itemsBehind before text after blankAfter _ ends_bracket items rest),
        ih left (Nat.lt_of_succ_lt_succ enough)
          (fun other member => reads other (List.mem_cons_of_mem item member)) _
          (List.cons_ne_nil _ _)]
      rw [List.reverse_cons, List.append_assoc, List.map_cons, List.singleton_append]

include blankAfter in
/-- A list that is not empty, behind its opening bracket. -/
theorem run_list (first : α) (items : List α) (limit : Nat)
    (enough : items.length + 1 < limit)
    (reads : ∀ item ∈ first :: items, Opens (text item) ∧ Reads element (text item) (content item))
    (rest : List UInt8) :
    (arrayRest element limit []).run
        (bytes (separated before text first items ++ after ++ [']']) ++ rest) =
      .ok ((first :: items).map content, rest) := by
  obtain ⟨left, rfl⟩ := Nat.exists_eq_succ_of_ne_zero (Nat.ne_zero_of_lt enough)
  obtain ⟨opens, read⟩ := reads first List.mem_cons_self
  rw [bytes_separated before text after ']' (by decide) first items rest,
    run_array_first element before blankBefore left _ opens _ read _
      (ends_itemsBehind before text after blankAfter _ ends_bracket items rest),
    run_elements element before after blankBefore blankAfter text content items left
      (Nat.lt_of_succ_lt_succ enough)
      (fun other member => reads other (List.mem_cons_of_mem first member)) _
      (List.cons_ne_nil _ _)]
  rfl

end Elements

theorem quoted_member (afterColon : List Char) (write : Json → List Char) (item : String × Json) :
    Quoted (memberText afterColon write item) :=
  ⟨_, bytes_cons_ascii '"' _ (by decide)⟩

theorem bytes_writeString (name : String) (rest : List UInt8) :
    bytes (writeString name) ++ rest =
      byteOf '"' :: (bytes (name.toList.flatMap escapedChar) ++ byteOf '"' :: rest) := by
  rw [writeString, bytes_append, bytes_cons_ascii '"' _ (by decide)]
  simp only [bytes_cons_ascii '"' [] (by decide), bytes_nil, List.cons_append, List.append_assoc,
    List.nil_append]

theorem run_member (reader : Reader Json) (size : Nat) (name : String) (text : List Char)
    (found : Json) (enough : (bytes (name.toList.flatMap escapedChar)).length < size)
    (reads : Reads reader text found) :
    Reads (member reader size) (writeString name ++ ':' :: text) (name, found) := by
  intro rest ends
  have read := run_stringBody name size (byteOf ':' :: (bytes text ++ rest)) enough
  have colon : expectColon.run (byteOf ':' :: (bytes text ++ rest)) =
      .ok ((), bytes text ++ rest) := by
    rw [expectColon, run_bind _ _ _ _ _ (run_token_solid _ _ (by decide))]
    rfl
  rw [bytes_append, List.append_assoc, bytes_writeString, bytes_cons_ascii ':' _ (by decide),
    List.cons_append, member, run_bind _ _ _ _ _ (run_token_solid _ _ (by decide))]
  simp only [if_true]
  rw [run_bind _ _ _ _ _ (run_skip _ _), run_bind _ _ _ _ _ read, run_bind _ _ _ _ _ colon,
    run_bind _ _ _ _ _ (reads rest ends)]
  rfl

section Members
variable (reader : Reader Json) (size : Nat) (before after : List Char)
  (blankBefore : Blank before) (blankAfter : Blank after)

include blankAfter in
theorem run_object_close (limit : Nat) (first : Bool) (found : List (String × Json))
    (rest : List UInt8) :
    (objectRest reader size (limit + 1) first found).run
        (bytes after ++ byteOf '\x7d' :: rest) = .ok (found, rest) := by
  rw [objectRest, run_bind _ _ _ _ _ (run_token after blankAfter _ rest (by decide))]
  rfl

include blankBefore

theorem run_object_first (limit : Nat) (text : List Char)
    (quoted : Quoted text) (found : String × Json)
    (reads : Reads (member reader size) text found) (rest : List UInt8) (ends : EndsNumber rest) :
    (objectRest reader size (limit + 1) true []).run (bytes before ++ (bytes text ++ rest)) =
      (objectRest reader size limit false [found]).run rest := by
  obtain ⟨more, leads⟩ := quoted
  have read := reads rest ends
  have brace : ¬ byteOf '"' = byteOf '\x7d' := by decide
  rw [leads, List.cons_append] at read ⊢
  rw [objectRest, run_bind _ _ _ _ _ (run_token before blankBefore _ _ (by decide))]
  simp only [if_neg brace, if_true]
  rw [run_bind _ _ _ _ _ read]
  rfl

theorem run_object_next (limit : Nat) (earlier : List (String × Json)) (text : List Char)
    (quoted : Quoted text) (found : String × Json)
    (reads : Reads (member reader size) text found)
    (absent : found.1 ∉ earlier.map Prod.fst) (rest : List UInt8) (ends : EndsNumber rest) :
    (objectRest reader size (limit + 1) false earlier).run
        (byteOf ',' :: (bytes before ++ (bytes text ++ rest))) =
      (objectRest reader size limit false (earlier ++ [found])).run rest := by
  obtain ⟨more, leads⟩ := quoted
  have read := reads rest ends
  have comma : ¬ byteOf ',' = byteOf '\x7d' := by decide
  have brace : ¬ some (byteOf '"') = some (byteOf '\x7d') := by decide
  rw [leads, List.cons_append] at read ⊢
  rw [objectRest, run_bind _ _ _ _ _ (run_token_solid _ _ (by decide))]
  simp only [if_neg comma, Bool.false_eq_true, if_false, if_true]
  rw [run_bind _ _ _ _ _ (run_skip _ _),
    run_bind _ _ _ _ _ (run_token before blankBefore _ _ (by decide))]
  simp only [if_neg brace]
  rw [run_bind _ _ _ _ _ read]
  simp only [insertMember_new earlier found.1 found.2 absent]

variable {α : Type} (text : α → List Char) (content : α → String × Json)

include blankAfter in
theorem run_members (items : List α) (limit : Nat) (enough : items.length < limit)
    (reads : ∀ item ∈ items, Quoted (text item) ∧
      Reads (member reader size) (text item) (content item))
    (earlier : List (String × Json))
    (distinct : (earlier.map Prod.fst ++ (items.map content).map Prod.fst).Nodup)
    (rest : List UInt8) :
    (objectRest reader size limit false earlier).run
        (itemsBehind before text after (byteOf '\x7d') items rest) =
      .ok (earlier ++ items.map content, rest) := by
  -- Names that are all different never replace an earlier member, so every item goes to the end.
  induction items generalizing limit earlier with
  | nil =>
      obtain ⟨left, rfl⟩ := Nat.exists_eq_succ_of_ne_zero (Nat.ne_zero_of_lt enough)
      rw [List.map_nil, List.append_nil]
      exact run_object_close reader size after blankAfter left false earlier rest
  | cons item items ih =>
      obtain ⟨left, rfl⟩ := Nat.exists_eq_succ_of_ne_zero (Nat.ne_zero_of_lt enough)
      obtain ⟨quoted, read⟩ := reads item List.mem_cons_self
      have absent : (content item).1 ∉ earlier.map Prod.fst := fun member =>
        (List.nodup_append.mp distinct).2.2 _ member _ List.mem_cons_self rfl
      have shifted : ((earlier ++ [content item]).map Prod.fst ++
          (items.map content).map Prod.fst).Nodup := by
        rw [List.map_append, List.append_assoc]
        exact distinct
      rw [itemsBehind_cons, run_object_next reader size before blankBefore left earlier _ quoted _
        read absent _ (ends_itemsBehind before text after blankAfter _ ends_brace items rest),
        ih left (Nat.lt_of_succ_lt_succ enough)
          (fun other member => reads other (List.mem_cons_of_mem item member)) _ shifted]
      rw [List.append_assoc, List.map_cons, List.singleton_append]

include blankAfter in
/-- An object that is not empty, behind its opening brace. -/
theorem run_object (first : α) (items : List α) (limit : Nat)
    (enough : items.length + 1 < limit)
    (reads : ∀ item ∈ first :: items, Quoted (text item) ∧
      Reads (member reader size) (text item) (content item))
    (distinct : (((first :: items).map content).map Prod.fst).Nodup) (rest : List UInt8) :
    (objectRest reader size limit true []).run
        (bytes (separated before text first items ++ after ++ ['\x7d']) ++ rest) =
      .ok ((first :: items).map content, rest) := by
  obtain ⟨left, rfl⟩ := Nat.exists_eq_succ_of_ne_zero (Nat.ne_zero_of_lt enough)
  obtain ⟨quoted, read⟩ := reads first List.mem_cons_self
  rw [bytes_separated before text after '\x7d' (by decide) first items rest,
    run_object_first reader size before blankBefore left _ quoted _ read _
      (ends_itemsBehind before text after blankAfter _ ends_brace items rest),
    run_members reader size before after blankBefore blankAfter text content items left
      (Nat.lt_of_succ_lt_succ enough)
      (fun other member => reads other (List.mem_cons_of_mem first member)) [content first]
      distinct]
  rfl

end Members

/-- A text takes at least a byte for each further item, and no less than each of its items. -/
theorem items_length {α : Type} (before : List Char) (text : α → List Char) (items : List α) :
    items.length ≤ (bytes (items.flatMap fun item => ',' :: (before ++ text item))).length ∧
      ∀ item ∈ items, (bytes (text item)).length ≤
        (bytes (items.flatMap fun item => ',' :: (before ++ text item))).length := by
  induction items with
  | nil => exact ⟨Nat.le_refl _, List.forall_mem_nil _⟩
  | cons item items ih =>
      obtain ⟨count, each⟩ := ih
      rw [List.flatMap_cons, bytes_append, bytes_cons_ascii ',' _ (by decide), bytes_append]
      simp only [List.length_append, List.length_cons]
      refine ⟨by omega, fun other member => ?_⟩
      rcases List.mem_cons.mp member with rfl | later
      · omega
      · exact Nat.le_trans (each other later) (by omega)

theorem separated_length {α : Type} (before after : List Char) (text : α → List Char)
    (opening closing : Char) (ascii : opening.toNat < 128 ∧ closing.toNat < 128) (first : α)
    (items : List α) (size : Nat)
    (enough : (bytes (opening :: (separated before text first items ++ after) ++
      [closing])).length < size) :
    items.length + 1 < size ∧
      ∀ item ∈ first :: items, (bytes (text item)).length < size := by
  obtain ⟨count, each⟩ := items_length before text items
  rw [List.cons_append, bytes_cons_ascii opening _ ascii.1, separated] at enough
  simp only [bytes_append, bytes_cons_ascii closing [] ascii.2, List.length_cons,
    List.length_append] at enough
  refine ⟨by omega, fun item member => ?_⟩
  rcases List.mem_cons.mp member with rfl | later
  · omega
  · have fits := each item later
    omega

theorem member_length (name : String) (text : List Char) (size : Nat)
    (enough : (bytes (writeString name ++ ':' :: text)).length < size) :
    (bytes (name.toList.flatMap escapedChar)).length < size ∧ (bytes text).length < size := by
  rw [bytes_append, bytes_writeString, bytes_cons_ascii ':' text (by decide)] at enough
  simp only [List.length_cons, List.length_append] at enough
  omega

end Reading

end NodePolicy.Json
