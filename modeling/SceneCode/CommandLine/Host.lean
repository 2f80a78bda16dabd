import SceneCode.Blob
import SceneCode.CommandLine.Path
import SceneCode.OrderedMap

/-!
# Hosts

A run needs a place where files live.  `Host` is that place for runs in any monad; a `FileTree`
is a host of its own, a finite system of files and directories in which a run is a function.

Every file and directory of a tree has its place below the root.  A run works in one of the
directories: relative paths start there, absolute paths at the root.  `..` leads to the directory
above, and from the root to the root.  Names and paths that are too long are refused.
-/

set_option autoImplicit false

namespace SceneCode.CommandLine

inductive FileFault where
  | notFound
  | isDirectory
  | notDirectory
  | nameTooLong
  | nullCharacter
  | other (description : String)
  deriving DecidableEq, Repr

structure Host (m : Type → Type) where
  /-- Whether there is a file or directory; a path that leads nowhere is no fault. -/
  pathExists : Path → m (Except FileFault Bool)
  read : Path → m (Except FileFault Blob)
  write : Path → String → m (Except FileFault Unit)
  /-- The time since the start in seconds, with two decimals. -/
  elapsed : m String

/-- The names on the way from the root. -/
abbrev Location := List String

structure FileTree where
  files : OrderedMap Location Blob
  /-- Directories besides those that hold a file. -/
  directories : List Location
  /-- The directory where relative paths start. -/
  workingDirectory : Location
  deriving DecidableEq, Repr

namespace FileTree

/-- The most bytes of a name. -/
def nameLimit : Nat := 255

/-- The most bytes of a path. -/
def pathLimit : Nat := 4095

/-- Whether `location` is a directory: it is one, or it is on the way to something. -/
def isDirectory (tree : FileTree) (location : Location) : Bool :=
  location.isPrefixOf tree.workingDirectory
    || tree.directories.any (fun d => location.isPrefixOf d)
    || tree.files.keys.any (fun f => location.isPrefixOf f && location.length < f.length)

/-- Where a name leads from a directory. -/
def child (name : String) (directory : Location) : Location :=
  if name = ".." then directory.dropLast else directory ++ [name]

/-- Follows names from a directory; all but the last have to lead to directories. -/
def follow (tree : FileTree) (here : Location) : List String → Except FileFault Location
  | [] => .ok here
  | name :: rest =>
    let next := child name here
    if nameLimit < name.utf8ByteSize then .error .nameTooLong
    else if rest.isEmpty || tree.isDirectory next then tree.follow next rest
    else if (tree.files.find? next).isSome then .error .notDirectory
    else .error .notFound

/-- The directory where a path starts. -/
def start (tree : FileTree) (path : Path) : Location :=
  if path.root = "" then tree.workingDirectory else []

/-- The location a path leads to, whether or not something is there. -/
def locate (tree : FileTree) (path : Path) : Except FileFault Location :=
  if pathLimit < path.text.utf8ByteSize then .error .nameTooLong
  else tree.follow (tree.start path) path.names

def pathExists (tree : FileTree) (path : Path) : Except FileFault Bool :=
  match tree.locate path with
  | .ok location => .ok (tree.isDirectory location || (tree.files.find? location).isSome)
  | .error .notFound | .error .notDirectory => .ok false
  | .error fault => .error fault

def read (tree : FileTree) (path : Path) : Except FileFault Blob := do
  let location ← tree.locate path
  if tree.isDirectory location then throw .isDirectory
  match tree.files.find? location with
  | some blob => pure blob
  | none => throw .notFound

/-- The tree with a file that holds a text. -/
def put (tree : FileTree) (location : Location) (text : String) : FileTree :=
  { tree with files := tree.files.insert location text.toUTF8.data }

def write (tree : FileTree) (path : Path) (text : String) : Except FileFault FileTree := do
  let location ← tree.locate path
  if tree.isDirectory location then throw .isDirectory
  pure (tree.put location text)

def host (elapsed : String) : Host (StateM FileTree) where
  pathExists path := do return (← get).pathExists path
  read path := do return (← get).read path
  write path text := do
    match (← get).write path text with
    | .ok tree =>
      set tree
      return .ok ()
    | .error fault => return .error fault
  elapsed := pure elapsed

end FileTree

end SceneCode.CommandLine
