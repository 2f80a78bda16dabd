/-!
# Paths

A path is a root and the names below it.  Empty names and the name `.` are dropped when a path is
read, and the path without any name is written `.`.  Two slashes at the start are a root of their
own; any other number of them is the plain root.
-/

set_option autoImplicit false

namespace SceneCode.CommandLine

structure Path where
  /-- Empty for a relative path. -/
  root : String
  names : List String
  deriving DecidableEq, Repr

namespace Path

def ofString (text : String) : Path where
  root :=
    match (text.toList.takeWhile (· = '/')).length with
    | 0 => ""
    | 2 => "//"
    | _ => "/"
  names := (text.splitOn "/").filter fun name => !(name = "" || name = ".")

def text (path : Path) : String :=
  if path.root = "" ∧ path.names = [] then "."
  else path.root ++ String.intercalate "/" path.names

def hasNull (path : Path) : Bool := path.text.toList.contains (Char.ofNat 0)

/-- A name without its suffix: the part from the last dot on, if that is neither the first nor
the last character. -/
def stem (name : List Char) : List Char :=
  let suffix := name.reverse.takeWhile (· ≠ '.')
  match name.reverse.dropWhile (· ≠ '.') with
  | _ :: before => if suffix.isEmpty || before.isEmpty then name else before.reverse
  | [] => name

def withSuffix (path : Path) (suffix : String) : Path :=
  match path.names.getLast? with
  | none => path
  | some last =>
    { path with names := path.names.dropLast ++ [String.ofList (stem last.toList) ++ suffix] }

end Path

end SceneCode.CommandLine
