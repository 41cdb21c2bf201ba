import NodePolicy.ErrorKind

/-!
Texts and lists that never grow past a limit. The limit is part of the type and every value carries
the proof that it keeps it; an operation that would break the limit answers with an error, so what
was there before is still there.
-/

namespace NodePolicy

/-- What a limit bounds: the bytes of a text in UTF-8, or the elements of a list. -/
inductive Bound where
  | textBytes | elementCount
  deriving DecidableEq, Repr

def Bound.name : Bound → String
  | textBytes => "string length"
  | elementCount => "element count"

structure CapacityError where
  bound : Bound
  length : Nat
  capacity : Nat
  deriving DecidableEq, Repr

def CapacityError.kind (_ : CapacityError) : ErrorKind := .capacityExceeded

def CapacityError.message (error : CapacityError) : String :=
  s!"{error.bound.name} exceeds application limit: {error.length} > {error.capacity}"

structure BoundedText (capacity : Nat) where
  text : String
  fits : text.utf8ByteSize ≤ capacity
  deriving DecidableEq

namespace BoundedText

variable {capacity : Nat}

def empty : BoundedText capacity := ⟨"", Nat.zero_le capacity⟩

instance : Inhabited (BoundedText capacity) := ⟨empty⟩

def ofText (text : String) : Except CapacityError (BoundedText capacity) :=
  if fits : text.utf8ByteSize ≤ capacity then .ok ⟨text, fits⟩
  else .error ⟨.textBytes, text.utf8ByteSize, capacity⟩

def assign (_ : BoundedText capacity) (text : String) :
    Except CapacityError (BoundedText capacity) :=
  ofText text

def size (bounded : BoundedText capacity) : Nat := bounded.text.utf8ByteSize

theorem ofText_text (bounded : BoundedText capacity) : ofText bounded.text = .ok bounded := by
  rw [ofText, dif_pos bounded.fits]

end BoundedText

structure BoundedList (α : Type) (capacity : Nat) where
  items : List α
  fits : items.length ≤ capacity
  deriving DecidableEq

namespace BoundedList

variable {α : Type} {capacity : Nat}

def empty : BoundedList α capacity := ⟨[], Nat.zero_le capacity⟩

instance : Inhabited (BoundedList α capacity) := ⟨empty⟩

def size (list : BoundedList α capacity) : Nat := list.items.length

def isFull (list : BoundedList α capacity) : Bool := capacity ≤ list.size

def ofList (items : List α) : Except CapacityError (BoundedList α capacity) :=
  if fits : items.length ≤ capacity then .ok ⟨items, fits⟩
  else .error ⟨.elementCount, items.length, capacity⟩

def push (list : BoundedList α capacity) (item : α) :
    Except CapacityError (BoundedList α capacity) :=
  if room : list.items.length < capacity then
    .ok ⟨list.items ++ [item], by rw [List.length_append]; exact room⟩
  else .error ⟨.elementCount, list.items.length + 1, capacity⟩

/-- Adds a text at the end. Whether there is room comes before whether the text fits. -/
def pushText {bytes : Nat} (list : BoundedList (BoundedText bytes) capacity) (text : String) :
    Except CapacityError (BoundedList (BoundedText bytes) capacity) :=
  if list.isFull then .error ⟨.elementCount, list.size + 1, capacity⟩
  else do list.push (← BoundedText.ofText text)

def set (list : BoundedList α capacity) (index : Nat) (item : α) : BoundedList α capacity :=
  ⟨list.items.set index item, by rw [List.length_set]; exact list.fits⟩

def texts {bytes : Nat} (list : BoundedList (BoundedText bytes) capacity) : List String :=
  list.items.map BoundedText.text

end BoundedList

end NodePolicy
