/-!
Why a file cannot be read, in the words of the system. The command line quotes them.
-/

namespace NodePolicy.Command

structure FileError where
  description : String
  code : Nat
  deriving DecidableEq, Repr

namespace FileError

def message (error : FileError) : String := s!"{error.description} (os error {error.code})"

def notFound : FileError := ⟨"No such file or directory", 2⟩
def notPermitted : FileError := ⟨"Permission denied", 13⟩
def notDirectory : FileError := ⟨"Not a directory", 20⟩
def isDirectory : FileError := ⟨"Is a directory", 21⟩
def nameTooLong : FileError := ⟨"File name too long", 36⟩

/-- The error of a number. One that is not described here keeps the description that came with it. -/
def ofCode (code : Nat) (description : String) : FileError :=
  ([notFound, notPermitted, notDirectory, isDirectory, nameTooLong].find? (·.code = code)).getD
    ⟨description, code⟩

end FileError

end NodePolicy.Command
