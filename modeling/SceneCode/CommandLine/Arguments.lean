import SceneCode.CommandLine.Path
import SceneCode.Diagnostic
import SceneCode.Encoding
import SceneCode.Text.Digit

/-!
# Command-line arguments

One scenario file is to be named; every option but the request for help takes one value.  An
option may be shortened as long as it stays unambiguous, its value follows as the next argument
or behind an equals sign, and the last of several values counts.  Behind `--` every argument is a
file name.  The separator is never a value: `--` behind an equals sign is dropped and leaves the
option blank.

An argument that starts with a hyphen is an option unless it is a lone hyphen, looks like a
negative number or contains a blank.  Options are taken from left to right and the first fault is
reported.  A missing file name is reported after those, and arguments that nothing took come
last.
-/

set_option autoImplicit false

namespace SceneCode.CommandLine

inductive Flag where
  | help
  | encoding
  | listing
  | json
  | symbols
  | level
  deriving DecidableEq, Repr

inductive UsageFault where
  | ambiguous (argument : String) (candidates : List String)
  | valueExpected (flag : Flag)
  | valueIgnored (flag : Flag) (value : String)
  | invalidEncoding (value : String)
  | invalidLevel (value : String)
  | missingInput
  | unrecognized (arguments : List String)
  deriving DecidableEq, Repr

inductive Choice (α : Type) where
  | unsaid
  /-- The option was given, and its value was dropped. -/
  | blank
  | said (value : α)
  deriving DecidableEq, Repr

def separatorText : String := "--"

def Choice.ofText? {α : Type} (read : String → Option α) (text : String) : Option (Choice α) :=
  if text = separatorText then some .blank else (read text).map .said

def Choice.ofPath (text : String) : Choice Path :=
  if text = separatorText then .blank else .said (Path.ofString text)

structure Options where
  encoding : Choice Encoding := .unsaid
  listing : Choice Path := .unsaid
  json : Choice Path := .unsaid
  symbols : Choice Path := .unsaid
  level : Choice Level := .unsaid
  deriving DecidableEq, Repr

structure Settings extends Options where
  input : Path
  deriving DecidableEq, Repr

inductive Request where
  | help
  | run (settings : Settings)
  deriving DecidableEq, Repr

namespace Flag

def all : List Flag := [help, encoding, listing, json, symbols, level]

def long : Flag → String
  | help => "--help"
  | encoding => "--nls"
  | listing => "--ir-out"
  | json => "--json-out"
  | symbols => "--symbols"
  | level => "--log-level"

/-- All spellings, as messages name the option. -/
def title : Flag → String
  | help => "-h/--help"
  | flag => flag.long

def ofSpelling? (spelling : String) : Option Flag :=
  if spelling = "-h" then some help else all.find? (·.long = spelling)

end Flag

namespace UsageFault

def message : UsageFault → String
  | ambiguous argument candidates =>
    "ambiguous option: " ++ argument ++ " could match " ++ String.intercalate ", " candidates
  | valueExpected flag => "argument " ++ flag.title ++ ": expected one argument"
  | valueIgnored flag value =>
    "argument " ++ flag.title ++ ": ignored explicit argument " ++ Text.quoted value
  | invalidEncoding value =>
    "argument " ++ Flag.encoding.title ++ ": invalid parse value: " ++ Text.quoted value
  | invalidLevel value =>
    "argument " ++ Flag.level.title ++ ": invalid choice: " ++ Text.quoted value
      ++ " (choose from "
      ++ String.intercalate ", " (Level.all.map fun l => Text.quoted l.name) ++ ")"
  | missingInput => "the following arguments are required: input"
  | unrecognized arguments =>
    "unrecognized arguments: " ++ String.intercalate " " arguments

end UsageFault

inductive Word where
  | plain (text : String)
  | separator
  | option (flag : Flag) (value : Option String)
  /-- The short request for help with more letters, or a value, behind it. -/
  | shortHelp (letters : List Char)
  | unknown (text : String)
  deriving DecidableEq, Repr

namespace Word

def isDigit (c : Char) : Bool := (Text.digitValue? c).isSome

/-- Whether digits, or a point between digits of which the first may be missing, follow a
hyphen.  A line feed at the end does not count. -/
def looksNegative (behindHyphen : List Char) : Bool :=
  let cs := if behindHyphen.getLast? = some '\n' then behindHyphen.dropLast else behindHyphen
  match cs.dropWhile isDigit with
  | [] => !cs.isEmpty
  | '.' :: decimals => !decimals.isEmpty && decimals.all isDigit
  | _ => false

def splitValue (text : String) : String × Option String :=
  let cs := text.toList
  let name := cs.takeWhile (· ≠ '=')
  match cs.dropWhile (· ≠ '=') with
  | _ :: value => (String.ofList name, some (String.ofList value))
  | [] => (String.ofList name, none)

/-- The options a shortened spelling may stand for. -/
def candidates (name : String) : List Flag :=
  Flag.all.filter fun flag => name.toList.isPrefixOf flag.long.toList

/-- An argument that starts with a hyphen and names no option in full. -/
def classifyOther (text : String) (behindHyphen : List Char) : Word :=
  if looksNegative behindHyphen || text.toList.contains ' ' then .plain text
  else .unknown text

def classify (text : String) : Except UsageFault Word :=
  let (name, value) := splitValue text
  match text.toList with
  | '-' :: rest =>
    match Flag.ofSpelling? text with
    | some flag => .ok (.option flag none)
    | none =>
      match Flag.ofSpelling? name, value, rest with
      | _, _, [] => .ok (.plain text)
      | some _, some letters, 'h' :: _ => .ok (.shortHelp letters.toList)
      | some flag, some _, _ => .ok (.option flag value)
      | _, _, '-' :: _ =>
        match candidates name with
        | [] => .ok (classifyOther text rest)
        | [flag] => .ok (.option flag value)
        | flags => .error (.ambiguous text (flags.map Flag.long))
      | _, _, 'h' :: letters => .ok (.shortHelp letters)
      | _, _, _ => .ok (classifyOther text rest)
  | _ => .ok (.plain text)

def classifyAll : List String → Except UsageFault (List Word)
  | [] => .ok []
  | text :: rest =>
    if text = separatorText then .ok (.separator :: rest.map .plain)
    else do
      let first ← classify text
      let others ← classifyAll rest
      pure (first :: others)

end Word

structure Taken extends Options where
  input : Option String := none
  extras : List String := []

namespace Taken

def setValue (taken : Taken) (flag : Flag) (value : String) : Except UsageFault Taken :=
  match flag with
  | .help => .error (.valueIgnored .help value)
  | .encoding =>
    match Choice.ofText? Encoding.ofName? value with
    | some encoding => .ok { taken with encoding }
    | none => .error (.invalidEncoding value)
  | .listing => .ok { taken with listing := Choice.ofPath value }
  | .json => .ok { taken with json := Choice.ofPath value }
  | .symbols => .ok { taken with symbols := Choice.ofPath value }
  | .level =>
    match Choice.ofText? Level.ofName? value with
    | some level => .ok { taken with level }
    | none => .error (.invalidLevel value)

def addExtra (taken : Taken) (text : String) : Taken :=
  { taken with extras := taken.extras ++ [text] }

def finish (taken : Taken) : Except UsageFault Request :=
  match taken.input with
  | none => .error .missingInput
  | some input =>
    if taken.extras.isEmpty then
      .ok (.run { taken.toOptions with input := Path.ofString input })
    else .error (.unrecognized taken.extras)

end Taken

/-- The letters behind a short request for help: each `h` is the same request once more, and what
follows these is refused.  No letters at all are an empty value, which is refused as well. -/
def shortHelp (letters : List Char) : Except UsageFault Request :=
  match letters, letters.dropWhile (· = 'h') with
  | _ :: _, [] => .ok .help
  | _, rest => .error (.valueIgnored .help (String.ofList rest))

/-- Takes the arguments from left to right.  The separator vanishes together with the file name
next to it. -/
def take (taken : Taken) : List Word → Except UsageFault Request
  | [] => taken.finish
  | .option .help none :: _ => .ok .help
  | .option flag (some value) :: rest => do
    let next ← taken.setValue flag value
    take next rest
  | .option flag none :: .plain value :: rest => do
    let next ← taken.setValue flag value
    take next rest
  | .option flag none :: _ => .error (.valueExpected flag)
  | .shortHelp letters :: _ => shortHelp letters
  | .unknown text :: rest => take (taken.addExtra text) rest
  | .plain text :: .separator :: rest =>
    if taken.input.isNone then take { taken with input := some text } rest
    else take ((taken.addExtra text).addExtra separatorText) rest
  | .plain text :: rest =>
    if taken.input.isNone then take { taken with input := some text } rest
    else take (taken.addExtra text) rest
  | .separator :: .plain text :: rest =>
    if taken.input.isNone then take { taken with input := some text } rest
    else take ((taken.addExtra separatorText).addExtra text) rest
  | .separator :: rest => take (taken.addExtra separatorText) rest

def parseArguments (arguments : List String) : Except UsageFault Request := do
  let words ← Word.classifyAll arguments
  take {} words

end SceneCode.CommandLine
