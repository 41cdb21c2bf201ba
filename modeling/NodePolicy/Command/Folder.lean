import NodePolicy.Command.FileError
import NodePolicy.Text.Split

/-!
A folder of files, in which a run of the program can be computed. It stands for the working
directory: it holds files by their relative paths, and a path that leaves it leads to directories
without files. The program knows nothing of it beyond what reading a path gives; the walk along a
path and the limits on its length are the system's.
-/

namespace NodePolicy.Command

structure Folder where
  files : List (String × List UInt8)

namespace Folder

def maxPathBytes : Nat := 4095
def maxNameBytes : Nat := 255

def parts (path : String) : List String := (Text.splitOn '/' path.toList).map String.ofList

/-- Where a walk has come to: a directory, by its depth above the folder and by its path below the
working directory or above it, or a file. -/
inductive Place where
  | directory (above : Nat) (below : List String)
  | file (content : List UInt8)

def hasDirectory (folder : Folder) (below : List String) : Bool :=
  folder.files.any fun item => below.isPrefixOf (parts item.1) && below != parts item.1

def enter (folder : Folder) (place : Place) (part : String) : Except FileError Place :=
  match place with
  | .file _ => .error .notDirectory
  | .directory above below =>
    if part = "" ∨ part = "." then .ok place
    else if part = ".." then
      if below = [] then .ok (.directory (above + 1) []) else .ok (.directory above below.dropLast)
    else if maxNameBytes < part.utf8ByteSize then .error .nameTooLong
    else if above ≠ 0 then .error .notFound
    else
      let inner := below ++ [part]
      match folder.files.find? fun item => parts item.1 = inner with
      | some item => .ok (.file item.2)
      | none => if folder.hasDirectory inner then .ok (.directory 0 inner) else .error .notFound

def read (folder : Folder) (path : String) : Except FileError (List UInt8) := do
  if path = "" then throw .notFound
  if maxPathBytes < path.utf8ByteSize then throw .nameTooLong
  let start : Place := if path.startsWith "/" then .directory 1 [] else .directory 0 []
  match ← (parts path).foldlM folder.enter start with
  | .file content => pure content
  | .directory _ _ => throw .isDirectory

end Folder

end NodePolicy.Command
