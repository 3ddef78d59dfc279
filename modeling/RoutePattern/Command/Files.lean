import RoutePattern.Text.Cut
import RoutePattern.Text.Quoted

/-!
# Files

`FilePath` is a path in its normal form. `Files` answers what a path holds, and `Files.ofEntries`
looks paths up among files in and below the working directory.
-/

namespace RoutePattern

/-- A path: the slashes in front, and the names of the way. -/
structure FilePath where
  root : String
  names : List String
deriving DecidableEq, Repr

namespace FilePath

/-- Read a path. Empty names and single dots are left out. Of more than two slashes in front only
one counts. -/
def ofText (text : String) : FilePath :=
  let slashes := (text.toList.takeWhile (· == '/')).length
  let root := if slashes = 0 then "" else if slashes = 2 then "//" else "/"
  let names := (stretches '/' text.toList).map String.ofList
  ⟨root, names.filter fun name => name != "" && name != "."⟩

/-- The text of a path. The working directory is a dot. -/
def text (path : FilePath) : String :=
  let shown := path.root ++ "/".intercalate path.names
  if shown.isEmpty then "." else shown

end FilePath

/-- Why a path holds no file. -/
inductive FileFault where
  | notFound
  | notDirectory
  | isDirectory
  /-- The path, or a name on the way, is too long. -/
  | tooLong
  /-- The path has a character that no path may have. -/
  | nullCharacter
deriving DecidableEq, Repr

/-- The description of why a path holds no file. -/
def FileFault.message (path : FilePath) : FileFault → String
  | notFound => "[Errno 2] No such file or directory: " ++ quoted path.text
  | notDirectory => "[Errno 20] Not a directory: " ++ quoted path.text
  | isDirectory => "[Errno 21] Is a directory: " ++ quoted path.text
  | tooLong => "[Errno 36] File name too long: " ++ quoted path.text
  | nullCharacter => "embedded null byte"

/-- What the paths hold that a command may read. -/
structure Files where
  read : FilePath → Except FileFault (List UInt8)

namespace Files

/-- The greatest number of bytes of a name. -/
def nameLimit : Nat := 255

/-- The greatest number of bytes of a path. -/
def pathLimit : Nat := 4095

/-- Whether a name is too long. -/
def isLongName (name : String) : Bool :=
  nameLimit < name.utf8ByteSize

/-- What a list of names stands for among files. -/
inductive Entry where
  | file (bytes : List UInt8)
  | directory
  | nothing
deriving DecidableEq, Repr

/-- What stands at the end of a way from the working directory. -/
def entryAt (files : List (List String × List UInt8)) (names : List String) : Entry :=
  match files.lookup names with
  | some bytes => .file bytes
  | none =>
      if names.isEmpty || files.any fun entry => names.isPrefixOf entry.1 then .directory
      else .nothing

/-- Follow names from a place that is the given number of directories above the working directory,
of which nothing is known. -/
def followOutside : List String → Except FileFault (List UInt8)
  | [] => .error .isDirectory
  | ".." :: rest => followOutside rest
  | name :: _ => .error (if isLongName name then .tooLong else .notFound)

/-- Follow names from a directory. -/
def follow (files : List (List String × List UInt8)) (directory : List String) :
    List String → Except FileFault (List UInt8)
  | [] => .error .isDirectory
  | name :: rest =>
      if name = ".." then
        if directory.isEmpty then followOutside rest else follow files directory.dropLast rest
      else if isLongName name then .error .tooLong
      else
        match entryAt files (directory ++ [name]) with
        | .nothing => .error .notFound
        | .directory => follow files (directory ++ [name]) rest
        | .file bytes => if rest.isEmpty then .ok bytes else .error .notDirectory

/-- Files in and below the working directory, by their paths. -/
def ofEntries (entries : List (String × List UInt8)) : Files where
  read path :=
    if path.names.any (·.contains '\x00') then .error .nullCharacter
    else if pathLimit < path.text.utf8ByteSize then .error .tooLong
    else if path.root.isEmpty then
      follow (entries.map fun (name, bytes) => ((FilePath.ofText name).names, bytes)) [] path.names
    else followOutside path.names

end Files

end RoutePattern
