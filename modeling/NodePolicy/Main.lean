import NodePolicy.Command.Run

/-!
The command line program. It looks up the variables it needs, the nearest file of variables in the
working directory or above it, and the file it is asked to read; all else is a function of these.
-/

open NodePolicy NodePolicy.Command

/-- An error of the system. Some of its numbers come with their sign turned around. -/
def fileError (error : IO.Error) : FileError :=
  let ofWord (word : UInt32) (details : String) : FileError :=
    FileError.ofCode (min word.toNat (UInt32.size - word.toNat)) details
  match error with
  | .noFileOrDirectory _ word details => ofWord word details
  | .inappropriateType _ word details => ofWord word details
  | .permissionDenied _ word details => ofWord word details
  | .invalidArgument _ word details => ofWord word details
  | .otherError word details => ofWord word details
  | other => ⟨toString other, 0⟩

def readFile (path : String) : IO (Except FileError (List UInt8)) := do
  try
    return .ok (← IO.FS.readBinFile path).data.toList
  catch error => return .error (fileError error)

def findVariables : Nat → String → IO (List UInt8)
  | 0, _ => pure []
  | height + 1, directory => do
    match ← readFile (directory ++ EnvFile.fileName) with
    | .ok content => pure content
    | .error _ => findVariables height (directory ++ "../")

def lookUp (names : List String) : IO Environment := do
  let found ← names.mapM fun name => do
    return (← IO.getEnv name).map (name, ·)
  return found.filterMap id

def main (arguments : List String) : IO UInt32 := do
  let directory ← IO.currentDir
  let content ← findVariables (directory.toString.splitOn "/").length ""
  let assignments := EnvFile.assignments content
  let environment ← lookUp (logVariable :: EnvFile.names assignments)
  let file ← match requestedPath? arguments with
    | some path => readFile path
    | none => pure (.ok [])
  let outcome := run environment assignments (fun _ => file) arguments
  IO.print outcome.output
  IO.eprint outcome.errors
  return outcome.code
