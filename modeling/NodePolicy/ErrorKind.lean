/-!
The coarse classes that every error of the library falls into.
-/

namespace NodePolicy

inductive ErrorKind where
  | invalidArgument
  | failed
  | capacityExceeded
  deriving DecidableEq, Repr

def ErrorKind.name : ErrorKind → String
  | invalidArgument => "InvalidArgument"
  | failed => "Failed"
  | capacityExceeded => "CapacityExceeded"

end NodePolicy
