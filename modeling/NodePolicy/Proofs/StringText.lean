import Mathlib.Tactic.SplitIfs
import NodePolicy.Json.StringReader
import NodePolicy.Json.Writer
import NodePolicy.Proofs.ByteReader

/-!
Strings read back from their text. An escape is read as the one character that it was written for;
the bytes of all other characters stand for themselves, so the content between the quotes is the
UTF-8 form of the text that was written.
-/

namespace NodePolicy.Json.Reading

def NeedsEscape (c : Char) : Prop := c = '"' ∨ c = '\\' ∨ c.toNat < 0x20

theorem hexNumber_control : ∀ code < 32,
    hexNumber? [byteOf '0', byteOf '0', byteOf (Nat.digitChar (code / 16)),
      byteOf (Nat.digitChar (code % 16))] = some code := by
  decide

theorem digitChar_ascii : ∀ digit < 16, (Nat.digitChar digit).toNat < 128 := by decide

theorem run_codeUnit (first second third fourth : UInt8) (rest : List UInt8) (value : Nat)
    (spells : hexNumber? [first, second, third, fourth] = some value) :
    codeUnit.run (first :: second :: third :: fourth :: rest) = .ok (value, rest) := by
  have taken : (first :: second :: third :: fourth :: rest).take 4 =
      [first, second, third, fourth] := rfl
  have four : ¬ [first, second, third, fourth].length < 4 := by simp
  simp only [codeUnit, StateT.run, taken, if_neg four, spells]
  rfl

/-- A control character without a short escape, by its code. -/
theorem run_piece_control (c : Char) (control : c.toNat < 0x20) (rest : List UInt8) :
    stringPiece.run (bytes ['\\', 'u', '0', '0', Nat.digitChar (c.toNat / 16),
        Nat.digitChar (c.toNat % 16)] ++ rest) = .ok (some (String.utf8EncodeChar c), rest) := by
  have high := digitChar_ascii (c.toNat / 16) (by omega)
  have low := digitChar_ascii (c.toNat % 16) (by omega)
  have read := run_codeUnit _ _ _ _ rest c.toNat (hexNumber_control c.toNat control)
  have noLow : isLowSurrogate c.toNat = false := by
    rw [isLowSurrogate, Bool.and_eq_false_iff, decide_eq_false_iff_not]
    omega
  have noHigh : isHighSurrogate c.toNat = false := by
    rw [isHighSurrogate, Bool.and_eq_false_iff, decide_eq_false_iff_not]
    omega
  have opens : ¬ byteOf '\\' = byteOf '"' := by decide
  simp only [bytes_cons_ascii _ _ high, bytes_cons_ascii _ _ low,
    bytes_cons_ascii '\\' _ (by decide),
    bytes_cons_ascii 'u' _ (by decide), bytes_cons_ascii '0' _ (by decide), bytes_nil,
    List.cons_append, List.nil_append]
  simp only [stringPiece, escape, unicodeEscape, StateT.run_bind, run_next, ok_bind, if_neg opens,
    if_true, read, noLow, noHigh, Bool.false_eq_true, if_false, Char.ofNat_toNat, run_pure]

/-- The text of a character that needs an escape is one piece. -/
theorem run_piece_escaped (c : Char) (escaped : NeedsEscape c) (rest : List UInt8) :
    stringPiece.run (bytes (escapedChar c) ++ rest) =
      .ok (some (String.utf8EncodeChar c), rest) := by
  unfold escapedChar
  split
  · rfl
  · rfl
  · rfl
  · rfl
  · rfl
  · rfl
  · rfl
  · next other backslash _ _ _ _ _ =>
      rcases escaped with rfl | rfl | control
      · exact absurd rfl other
      · exact absurd rfl backslash
      · rw [if_pos control]
        exact run_piece_control c control rest

theorem escapedChar_plain (c : Char) (plain : ¬ NeedsEscape c) : escapedChar c = [c] := by
  unfold escapedChar
  split
  · exact absurd (Or.inl rfl) plain
  · exact absurd (Or.inr (Or.inl rfl)) plain
  · exact absurd (Or.inr (Or.inr (by decide))) plain
  · exact absurd (Or.inr (Or.inr (by decide))) plain
  · exact absurd (Or.inr (Or.inr (by decide))) plain
  · exact absurd (Or.inr (Or.inr (by decide))) plain
  · exact absurd (Or.inr (Or.inr (by decide))) plain
  · exact if_neg fun control => plain (Or.inr (Or.inr control))

theorem highByte (code : Nat) (least : 128 ≤ code) (most : code < 256) :
    128 ≤ (UInt8.ofNat code).toNat := by
  rw [UInt8.toNat_ofNat', Nat.mod_eq_of_lt most]
  exact least

theorem utf8EncodeChar_high (c : Char) (high : 128 ≤ c.toNat) :
    ∀ byte ∈ String.utf8EncodeChar c, 128 ≤ byte.toNat := by
  intro byte member
  have code : c.val.toNat = c.toNat := rfl
  rw [String.utf8EncodeChar] at member
  split_ifs at member with ascii two three
  · omega
  · simp only [List.mem_cons, List.not_mem_nil, or_false] at member
    rcases member with rfl | rfl
    · exact highByte _ (by omega) (by omega)
    · exact highByte _ (by omega) (by omega)
  · simp only [List.mem_cons, List.not_mem_nil, or_false] at member
    rcases member with rfl | rfl | rfl
    · exact highByte _ (by omega) (by omega)
    · exact highByte _ (by omega) (by omega)
    · exact highByte _ (by omega) (by omega)
  · simp only [List.mem_cons, List.not_mem_nil, or_false] at member
    rcases member with rfl | rfl | rfl | rfl
    · exact highByte _ (by omega) (by omega)
    · exact highByte _ (by omega) (by omega)
    · exact highByte _ (by omega) (by omega)
    · exact highByte _ (by omega) (by omega)

def Plain (byte : UInt8) : Prop := byte ≠ byteOf '"' ∧ byte ≠ byteOf '\\' ∧ ¬ byte < 0x20

theorem plain_bytes (c : Char) (plain : ¬ NeedsEscape c) :
    ∀ byte ∈ String.utf8EncodeChar c, Plain byte := by
  intro byte member
  have quote : (byteOf '"').toNat = 34 := rfl
  have backslash : (byteOf '\\').toNat = 92 := rfl
  have space : (0x20 : UInt8).toNat = 32 := rfl
  have same : ∀ other : UInt8, byte.toNat ≠ other.toNat → byte ≠ other := by
    rintro _ differs rfl
    exact differs rfl
  by_cases ascii : c.toNat < 128
  · rw [utf8EncodeChar_ascii c ascii, List.mem_singleton] at member
    have code : byte.toNat = c.toNat := by
      rw [member]
      exact Nat.mod_eq_of_lt (Nat.lt_trans ascii (by decide))
    refine ⟨same _ fun equal => ?_, same _ fun equal => ?_, ?_⟩
    · exact plain (Or.inl (Char.toNat_inj.mp (code.symm.trans equal)))
    · exact plain (Or.inr (Or.inl (Char.toNat_inj.mp (code.symm.trans equal))))
    · rw [UInt8.lt_iff_toNat_lt, code]
      exact fun control => plain (Or.inr (Or.inr control))
  · have high := utf8EncodeChar_high c (Nat.le_of_not_lt ascii) byte member
    refine ⟨same _ (by omega), same _ (by omega), ?_⟩
    rw [UInt8.lt_iff_toNat_lt]
    omega

theorem run_piece_plain (byte : UInt8) (plain : Plain byte) (rest : List UInt8) :
    stringPiece.run (byte :: rest) = .ok (some [byte], rest) := by
  obtain ⟨quote, backslash, control⟩ := plain
  simp only [stringPiece, StateT.run_bind, run_next, ok_bind, if_neg quote, if_neg backslash,
    if_neg control, run_pure]

theorem run_pieces_some (limit : Nat) (gathered piece text rest : List UInt8)
    (read : stringPiece.run text = .ok (some piece, rest)) :
    (stringPieces (limit + 1) gathered).run text =
      (stringPieces limit (piece.reverse ++ gathered)).run rest := by
  rw [stringPieces, run_bind _ _ _ _ _ read, ← List.reverseAux_eq]

theorem run_plain (content gathered rest : List UInt8) (limit : Nat)
    (plain : ∀ byte ∈ content, Plain byte) :
    (stringPieces (limit + content.length) gathered).run (content ++ rest) =
      (stringPieces limit (content.reverse ++ gathered)).run rest := by
  induction content generalizing gathered with
  | nil => rfl
  | cons byte more ih =>
      have read := run_piece_plain byte (plain byte List.mem_cons_self) (more ++ rest)
      rw [List.length_cons, ← Nat.add_assoc, List.cons_append,
        run_pieces_some _ gathered [byte] _ _ read,
        ih _ fun other member => plain other (List.mem_cons_of_mem byte member)]
      simp

/-- A character takes no more pieces than it has bytes in the text. -/
theorem run_char (c : Char) :
    ∃ pieces ≤ (bytes (escapedChar c)).length, ∀ limit gathered rest,
      (stringPieces (limit + pieces) gathered).run (bytes (escapedChar c) ++ rest) =
        (stringPieces limit ((String.utf8EncodeChar c).reverse ++ gathered)).run rest := by
  by_cases escaped : NeedsEscape c
  · refine ⟨1, ?_, fun limit gathered rest => ?_⟩
    · apply List.length_pos_iff.mpr
      intro empty
      have read := run_piece_escaped c escaped []
      rw [empty] at read
      cases read
    · exact run_pieces_some limit gathered _ _ rest (run_piece_escaped c escaped rest)
  · have self : bytes (escapedChar c) = String.utf8EncodeChar c := by
      rw [escapedChar_plain c escaped, bytes, List.flatMap_singleton]
    rw [self]
    exact ⟨_, Nat.le_refl _, fun limit gathered rest =>
      run_plain _ gathered rest limit (plain_bytes c escaped)⟩

theorem run_stringPieces (text : List Char) (limit : Nat) (gathered rest : List UInt8)
    (enough : (bytes (text.flatMap escapedChar)).length < limit) :
    (stringPieces limit gathered).run (bytes (text.flatMap escapedChar) ++ byteOf '"' :: rest) =
      .ok (gathered.reverse ++ bytes text, rest) := by
  induction text generalizing limit gathered with
  | nil =>
      obtain ⟨more, rfl⟩ := Nat.exists_eq_succ_of_ne_zero (Nat.ne_of_gt (Nat.zero_lt_of_lt enough))
      have ends : stringPiece.run (byteOf '"' :: rest) = .ok (none, rest) := rfl
      rw [List.flatMap_nil, bytes_nil, List.nil_append, stringPieces, run_bind _ _ _ _ _ ends,
        List.append_nil]
      rfl
  | cons c more ih =>
      obtain ⟨pieces, few, read⟩ := run_char c
      rw [List.flatMap_cons, bytes_append] at enough ⊢
      rw [List.length_append] at enough
      obtain ⟨left, rfl⟩ := Nat.exists_eq_add_of_le' (Nat.le_trans few (by omega) : pieces ≤ limit)
      rw [List.append_assoc, read, ih left _ (by omega), List.reverse_append, List.reverse_reverse,
        List.append_assoc]
      rfl

theorem fromUTF8_bytes (text : String) :
    String.fromUTF8? ⟨(bytes text.toList).toArray⟩ = some text := by
  have content : (⟨(bytes text.toList).toArray⟩ : ByteArray) = text.toByteArray := by
    rw [← bytes_ofList, String.ofList_toList]
  rw [content, String.fromUTF8?, dif_pos text.isValidUTF8]
  rfl

/-- A written text is read back behind its opening quote. -/
theorem run_stringBody (text : String) (limit : Nat) (rest : List UInt8)
    (enough : (bytes (text.toList.flatMap escapedChar)).length < limit) :
    (stringBody limit).run (bytes (text.toList.flatMap escapedChar) ++ byteOf '"' :: rest) =
      .ok (text, rest) := by
  have read := run_stringPieces text.toList limit [] rest enough
  rw [List.reverse_nil, List.nil_append] at read
  rw [stringBody, run_bind _ _ _ _ _ read]
  simp only [fromUTF8_bytes]
  rfl

end NodePolicy.Json.Reading
