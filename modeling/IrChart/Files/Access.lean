/-!
# Access to files

Why a file operation fails, how paths are written, and what a run may do with files.
-/

namespace IrChart

/-! ## Faults

Why a file could not be read or written, in the words of the operating system.
-/

/-- Why a file operation failed. -/
inductive FileFault where
  | notFound
  | notDirectory
  | isDirectory
  /-- A name in the path, or the path itself, is longer than the system allows. -/
  | nameTooLong
  /-- The path holds the character that ends texts of the system. -/
  | nulInPath
  /-- The bytes of a file are no text. -/
  | notText
  | other (message : String)
  deriving DecidableEq, Repr

/-- The fault in words, with the number of the system error. -/
def FileFault.message : FileFault → String
  | notFound => "No such file or directory (os error 2)"
  | notDirectory => "Not a directory (os error 20)"
  | isDirectory => "Is a directory (os error 21)"
  | nameTooLong => "File name too long (os error 36)"
  | nulInPath => "file name contained an unexpected NUL byte"
  | notText => "stream did not contain valid UTF-8"
  | other message => message

/-! ## Paths

A path is a text whose parts stand between slashes. Empty parts and parts `.` lead nowhere, except
that a path may begin with `.`; a leading slash makes a path absolute.
-/

namespace Path

/-- The parts of a path between its slashes. -/
def parts (path : String) : List String := (path.toList.splitOnP (· == '/')).map String.ofList

/-- The path begins at the root of the file system. -/
def isAbsolute (path : String) : Bool := path.toList.head? == some '/'

/-- The path holds a character that no path of the system may hold. -/
def hasNul (path : String) : Bool := path.toList.contains '\x00'

/-- How many bytes a name may have. -/
def nameLimit : Nat := 255

/-- How many bytes a path may have. -/
def lengthLimit : Nat := 4095

/-- The part leads nowhere. -/
def isIdle (part : String) : Bool := part == "" || part == "."

/-- The beginning of a path that is no idle part: a slash, or a leading `.`. -/
def anchor (path : String) : String :=
  match path.toList with
  | '/' :: _ => "/"
  | ['.'] => "."
  | '.' :: '/' :: _ => "."
  | _ => ""

/-- The parts up to the last one that is not idle. -/
def trimIdle (parts : List String) : List String := (parts.reverse.dropWhile isIdle).reverse

/-- The directory of a path: what stands before its last part, or nothing if that is all there is.
The root and the empty path have none. -/
def parent? (path : String) : Option String :=
  let start := anchor path
  let body := trimIdle (parts (String.ofList (path.toList.drop start.length)))
  if body.isEmpty then
    if start = "." then some "" else none
  else some (start ++ "/".intercalate (trimIdle body.dropLast))

/-- `path` seen from the directory `base`. An absolute path stays as it is. -/
def join (base path : String) : String :=
  if isAbsolute path || base == "" then path
  else if base.toList.getLast? = some '/' then base ++ path
  else base ++ "/" ++ path

end Path

/-! ## Operations

What a run may do with files. The program does it to the file system, and the same run can be
followed on a `FileTree`.
-/

/-- The file operations of a run. Paths are texts. -/
class FileAccess (m : Type → Type) where
  /-- The path leads to a regular file. -/
  isFile (path : String) : m Bool
  /-- The text of a file. -/
  readText (path : String) : m (Except FileFault String)
  /-- Makes a text the whole content of a file, which need not exist. -/
  writeText (path text : String) : m (Except FileFault Unit)

end IrChart
