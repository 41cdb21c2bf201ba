import NodePolicy.Json.Cursor
import NodePolicy.Json.Writer
import NodePolicy.Proofs.ByteReader

/-!
What the compact and the indented form have in common. Both write every scalar in the same way; they
differ in the blanks in front of elements, members and closing brackets and behind colons. Such a
layout is all that a reader has to know of a form.
-/

namespace NodePolicy.Json

def Blank (text : List Char) : Prop := ∀ c ∈ text, c = ' ' ∨ c = '\n'

def isScalar : Json → Bool
  | array _ => false
  | object _ => false
  | _ => true

/-- Elements or members, the blanks in front of each, and commas between them. -/
def separated {α : Type} (before : List Char) (text : α → List Char) (first : α)
    (rest : List α) : List Char :=
  before ++ text first ++ rest.flatMap fun item => ',' :: (before ++ text item)

def memberText (afterColon : List Char) (write : Json → List Char) (item : String × Json) :
    List Char :=
  writeString item.1 ++ ':' :: (afterColon ++ write item.2)

structure Layout where
  write : Nat → Json → List Char
  lineStart : Nat → List Char
  afterColon : List Char
  lineStart_blank : ∀ depth, Blank (lineStart depth)
  afterColon_blank : Blank afterColon
  scalar : ∀ depth value, value.isScalar = true → write depth value = compactChars value
  emptyArray : ∀ depth, write depth (.array []) = ['[', ']']
  array : ∀ depth first rest, write depth (.array (first :: rest)) =
    '[' :: (separated (lineStart (depth + 1)) (write (depth + 1)) first rest ++ lineStart depth)
      ++ [']']
  emptyObject : ∀ depth, write depth (.object []) = ['\x7b', '\x7d']
  object : ∀ depth first rest, write depth (.object (first :: rest)) =
    '\x7b' :: (separated (lineStart (depth + 1)) (memberText afterColon (write (depth + 1))) first
      rest ++ lineStart depth) ++ ['\x7d']

namespace Layout

theorem blank_nil : Blank [] := by
  intro c member
  cases member

theorem compactElements_separated (first : Json) (rest : List Json) :
    compactChars.compactElements (first :: rest) = separated [] compactChars first rest := by
  induction rest generalizing first with
  | nil => simp [compactChars.compactElements, separated]
  | cons second rest ih =>
      rw [compactChars.compactElements, ih]
      · simp [separated]
      · exact List.cons_ne_nil second rest

theorem compactMembers_separated (first : String × Json) (rest : List (String × Json)) :
    compactChars.compactMembers (first :: rest) =
      separated [] (memberText [] compactChars) first rest := by
  induction rest generalizing first with
  | nil => simp [compactChars.compactMembers, separated, memberText]
  | cons second rest ih =>
      rw [compactChars.compactMembers, ih]
      · simp [separated, memberText]
      · exact List.cons_ne_nil second rest

def compact : Layout where
  write _ := compactChars
  lineStart _ := []
  afterColon := []
  lineStart_blank _ := blank_nil
  afterColon_blank := blank_nil
  scalar _ _ _ := rfl
  emptyArray _ := rfl
  array _ first rest := by rw [compactChars, compactElements_separated, List.append_nil]
  emptyObject _ := rfl
  object _ first rest := by rw [compactChars, compactMembers_separated, List.append_nil]

theorem newLine_blank (depth : Nat) : Blank (newLine depth) := by
  intro c member
  rcases List.mem_cons.mp member with rfl | spaces
  · exact Or.inr rfl
  · exact Or.inl (List.eq_of_mem_replicate spaces)

theorem indentedElements_separated (depth : Nat) (first : Json) (rest : List Json) :
    indentedChars.indentedElements depth (first :: rest) =
      separated (newLine depth) (indentedChars depth) first rest := by
  induction rest generalizing first with
  | nil => simp [indentedChars.indentedElements, separated]
  | cons second rest ih =>
      rw [indentedChars.indentedElements, ih]
      · simp [separated]
      · exact List.cons_ne_nil second rest

theorem indentedMembers_separated (depth : Nat) (first : String × Json)
    (rest : List (String × Json)) :
    indentedChars.indentedMembers depth (first :: rest) =
      separated (newLine depth) (memberText [' '] (indentedChars depth)) first rest := by
  induction rest generalizing first with
  | nil => simp [indentedChars.indentedMembers, separated, memberText]
  | cons second rest ih =>
      rw [indentedChars.indentedMembers, ih]
      · simp [separated, memberText]
      · exact List.cons_ne_nil second rest

def indented : Layout where
  write := indentedChars
  lineStart := newLine
  afterColon := [' ']
  lineStart_blank := newLine_blank
  afterColon_blank c member := Or.inl (List.mem_singleton.mp member)
  scalar _ value scalar := by
    cases value with
    | array _ => cases scalar
    | object _ => cases scalar
    | _ => rfl
  emptyArray _ := rfl
  array _ first rest := by
    rw [indentedChars, indentedElements_separated]
    · rfl
    · exact List.cons_ne_nil first rest
  emptyObject _ := rfl
  object _ first rest := by
    rw [indentedChars, indentedMembers_separated]
    · rfl
    · exact List.cons_ne_nil first rest

end Layout

end NodePolicy.Json
