import NodePolicy.Json.Cursor

/-!
Readers on the bytes of a text. A sequence of readers runs from what the first one left, and a
character of ASCII is the one byte that readers compare it with.
-/

namespace NodePolicy.Json

def bytes (text : List Char) : List UInt8 := text.flatMap String.utf8EncodeChar

theorem bytes_nil : bytes [] = [] := rfl

theorem bytes_append (first second : List Char) :
    bytes (first ++ second) = bytes first ++ bytes second :=
  List.flatMap_append

theorem bytes_ofList (text : List Char) :
    (String.ofList text).toByteArray.data.toList = bytes text := by
  rw [String.toByteArray_ofList, List.utf8Encode, bytes]
  exact congrArg Array.toList (List.data_toByteArray)

namespace Reading

theorem utf8EncodeChar_ascii (c : Char) (ascii : c.toNat < 128) :
    String.utf8EncodeChar c = [byteOf c] := by
  have least : c.val.toNat ≤ 127 := Nat.le_of_lt_succ ascii
  rw [String.utf8EncodeChar, if_pos least]
  rfl

theorem bytes_cons_ascii (c : Char) (text : List Char) (ascii : c.toNat < 128) :
    bytes (c :: text) = byteOf c :: bytes text := by
  rw [bytes, List.flatMap_cons, utf8EncodeChar_ascii c ascii]
  rfl

section Run
variable {α β : Type} (text rest : List UInt8)

theorem run_bind (first : Reader α) (next : α → Reader β) (value : α)
    (ran : first.run text = .ok (value, rest)) :
    (first >>= next).run text = (next value).run rest := by
  rw [StateT.run_bind, ran]
  rfl

theorem ok_bind (value : α) (next : α → Except Stop β) :
    (Except.ok value >>= next) = next value := rfl

theorem run_pure (value : α) : (pure value : Reader α).run text = .ok (value, text) := rfl

theorem run_get : (get : Reader (List UInt8)).run text = .ok (text, text) := rfl

theorem run_peek : peek.run text = .ok (text.head?, text) := rfl

theorem run_skip (byte : UInt8) : skip.run (byte :: rest) = .ok ((), rest) := rfl

theorem run_next (atEnd : Fault) (byte : UInt8) :
    (next atEnd).run (byte :: rest) = .ok (byte, rest) := rfl

end Run

end Reading

end NodePolicy.Json
