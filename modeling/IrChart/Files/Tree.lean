import IrChart.Files.Access

/-!
# File trees

The files below one directory, as a value. Relative paths start at that directory, absolute ones
lead into it if they begin with its own path. Of all that is outside the tree only the directories
above it and the root of the file system are known, and they begin empty.
-/

namespace IrChart

/-- A file with its bytes, or a directory. -/
inductive FileEntry where
  | file (bytes : ByteArray)
  | directory

/-- The entries below the directory `location`, by the parts of their paths. -/
structure FileTree where
  location : String
  entries : List (List String × FileEntry) := []

namespace FileTree

/-- The root of the file system, as a place. -/
def root : List String := ["/"]

/-- The place is the directory of the tree or above it. Such places are written as steps up. -/
def isAbove (place : List String) : Bool := place.all (· == "..")

/-- The entry at a place. -/
def get? (tree : FileTree) (place : List String) : Option FileEntry :=
  if isAbove place || place == root then some .directory
  else (tree.entries.find? (·.1 == place)).map Prod.snd

/-- `tree` with an entry at a place. -/
def put (tree : FileTree) (place : List String) (entry : FileEntry) : FileTree :=
  if tree.entries.any (·.1 == place) then
    { tree with entries := tree.entries.map fun e => if e.1 == place then (place, entry) else e }
  else { tree with entries := tree.entries ++ [(place, entry)] }

/-- `tree` with an entry at a place, and with the directories above it. -/
def plant (tree : FileTree) (place : List String) (entry : FileEntry) : FileTree :=
  ((List.range place.length).foldl (fun tree k =>
    if (tree.get? (place.take k)).isSome then tree else tree.put (place.take k) .directory)
    tree).put place entry

/-- The directory that a place is in. The root is in itself. -/
def up (place : List String) : List String :=
  if place == root then place else if isAbove place then place ++ [".."] else place.dropLast

/-- The place that one more part leads to. It must start from a directory. -/
def enter (tree : FileTree) (place : List String) (part : String) :
    Except FileFault (List String) :=
  match tree.get? place with
  | none => .error .notFound
  | some (.file _) => .error .notDirectory
  | some .directory =>
    if Path.isIdle part then .ok place
    else if part = ".." then .ok (up place)
    else if Path.nameLimit < part.utf8ByteSize then .error .nameTooLong
    else .ok (place ++ [part])

/-- The place where a path starts, and its parts from there on. -/
def startOf (tree : FileTree) (path : String) : List String × List String :=
  let own := Path.parts tree.location
  let parts := Path.parts path
  if own.isPrefixOf parts then ([], parts.drop own.length)
  else if Path.isAbsolute path then (root, parts)
  else ([], parts)

/-- The place that a path leads to. There need not be an entry there. -/
def locate (tree : FileTree) (path : String) : Except FileFault (List String) :=
  if Path.hasNul path then .error .nulInPath
  else if path.isEmpty then .error .notFound
  else if Path.lengthLimit < path.utf8ByteSize then .error .nameTooLong
  else (tree.startOf path).2.foldlM tree.enter (tree.startOf path).1

/-- The path leads to a regular file. -/
def isFile (tree : FileTree) (path : String) : Bool :=
  match tree.locate path with
  | .ok place => match tree.get? place with
    | some (.file _) => true
    | _ => false
  | .error _ => false

/-- The text of the file at a path. -/
def readText (tree : FileTree) (path : String) : Except FileFault String := do
  match tree.get? (← tree.locate path) with
  | none => .error .notFound
  | some .directory => .error .isDirectory
  | some (.file bytes) =>
    match String.fromUTF8? bytes with
    | some text => .ok text
    | none => .error .notText

/-- A path without the slashes at its end, unless there is nothing else. -/
def trimSlashes (path : String) : String :=
  let body := (path.toList.reverse.dropWhile (· == '/')).reverse
  if body.isEmpty then path else String.ofList body

/-- The tree after a text was written to the file at a path. A path that ends with a slash names
no file. -/
def writeText (tree : FileTree) (path text : String) : Except FileFault FileTree := do
  let place ← tree.locate (trimSlashes path)
  match tree.get? place with
  | some .directory => .error .isDirectory
  | _ =>
    if path.toList.getLast? = some '/' then .error .isDirectory
    else .ok (tree.put place (.file text.toUTF8))

/-- A run on a file tree. -/
instance : FileAccess (StateM FileTree) where
  isFile path := return (← get).isFile path
  readText path := return (← get).readText path
  writeText path text := fun tree =>
    match tree.writeText path text with
    | .ok tree => (.ok (), tree)
    | .error fault => (.error fault, tree)

end FileTree
end IrChart
