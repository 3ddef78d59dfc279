import RoutePattern.Command.Run

/-!
# The program

The program reads its files, runs the command line on them and prints the outcome.
-/

namespace RoutePattern

/-- What a path on the disk holds. An error of the disk that is no `FileFault`, such as that of a file
which may not be read, ends the program. -/
def readDisk (path : FilePath) : IO (Except FileFault (List UInt8)) := do
  if path.names.any (·.contains '\x00') then return .error .nullCharacter
  try
    return .ok (← IO.FS.readBinFile path.text).toList
  catch
    | .noFileOrDirectory .. => return .error .notFound
    -- A directory can be opened. The error comes from reading it, and it names no file.
    | .inappropriateType none .. => return .error .isDirectory
    | .inappropriateType .. => return .error .notDirectory
    | .invalidArgument _ _ "name too long" => return .error .tooLong
    | error => throw error

/-- The paths that a command line may read. -/
def Invocation.paths (invocation : Invocation) : List FilePath :=
  invocation.config :: match invocation.task with
    | .check file => [file]
    | _ => []

/-- What the paths of a command line hold on the disk. -/
def readFiles (invocation : Invocation) : IO Files := do
  let found ← invocation.paths.mapM fun path => return (path, ← readDisk path)
  return ⟨fun path => (found.lookup path).getD (.error .notFound)⟩

/-- The description of a fault that ends a command. -/
def Abort.message : Abort → String
  | expression fault => fault.message
  | number fault => fault.message
  | search fault => fault.message
  | bytes fault => fault.message
  | file path fault => fault.message path

/-- Run the program on the words of its command line. The answer is its exit status. -/
def runProgram (words : List String) : IO UInt32 := do
  match Invocation.read words with
  | .error .help =>
      IO.println ("usage: " ++ programName ++ " command ...")
      return 0
  | .error (.misuse error) =>
      IO.eprintln error.message
      return 2
  | .ok invocation =>
      match invocation.run (← readFiles invocation) with
      | .ok outcome =>
          IO.eprint outcome.reports
          IO.print outcome.output
          return outcome.status.toUInt32
      | .error fault =>
          IO.eprintln fault.message
          return 1

end RoutePattern

/-- The program. -/
def main (words : List String) : IO UInt32 :=
  RoutePattern.runProgram words
