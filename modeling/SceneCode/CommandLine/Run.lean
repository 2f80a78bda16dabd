import SceneCode.CommandLine.Arguments
import SceneCode.CommandLine.Host
import SceneCode.Disassembly
import SceneCode.Export
import SceneCode.Json.Printer

/-!
# A run of the command line

A run reads its arguments, the symbol file and the scenario, and then writes the listing and, on
request, the JSON document.  Nothing is written before the scenario is disassembled.
-/

set_option autoImplicit false

namespace SceneCode.CommandLine

inductive RunFault where
  /-- The value of an option that was left blank is needed. -/
  | blankOption (flag : Flag)
  | file (fault : FileFault)
  | symbols (fault : SymbolFault)
  | output (fault : OutputFault)
  deriving DecidableEq, Repr

inductive Ending where
  | finished
  | help
  | usage (fault : UsageFault)
  | missingInput (path : Path)
  | undecodable (fault : Fault)
  | broken (fault : RunFault)
  deriving DecidableEq, Repr

structure Report where
  output : List String := []
  diagnostics : List Diagnostic := []
  ending : Ending
  deriving DecidableEq, Repr

namespace FileFault

def message : FileFault → String
  | notFound => "no such file or directory"
  | isDirectory => "is a directory"
  | notDirectory => "not a directory"
  | nameTooLong => "file name too long"
  | nullCharacter => "embedded null byte"
  | other description => description

end FileFault

namespace RunFault

def message : RunFault → String
  | blankOption .level => "Level not an integer or a valid string: []"
  | blankOption flag => "argument " ++ flag.title ++ ": no value"
  | file fault => fault.message
  | symbols fault => fault.message
  | output fault => fault.message

end RunFault

namespace Ending

def exitCode : Ending → Nat
  | finished | help => 0
  | usage _ => 2
  | missingInput _ | undecodable _ | broken _ => 1

def programName : String := "hcb_disasm.py"

def usageLine? : Ending → Option String
  | usage fault => some (programName ++ ": error: " ++ fault.message)
  | _ => none

def stopMessage? : Ending → Option String
  | missingInput path => some ("missing input file: " ++ path.text)
  | undecodable fault => some ("disassembly failed: " ++ fault.message)
  | _ => none

end Ending

def pathExists {m : Type → Type} [Monad m] (host : Host m) (path : Path) :
    m (Except FileFault Bool) :=
  if path.hasNull then pure (.ok false) else host.pathExists path

def writeFile {m : Type → Type} [Monad m] (host : Host m) (path : Path) (text : String) :
    m (Except FileFault Unit) :=
  if path.hasNull then pure (.error .nullCharacter) else host.write path text

def readSymbols {m : Type → Type} [Monad m] (host : Host m) (path : Path) :
    m (Except RunFault (SymbolTable × List Diagnostic)) := do
  match ← host.read path with
  | .error fault => pure (.error (.file fault))
  | .ok bytes =>
    match SymbolTable.load bytes.toList with
    | .ok (table, log) => pure (.ok (table, log.toList))
    | .error fault => pure (.error (.symbols fault))

/-- Loads the symbols; a file that does not exist holds none. -/
def loadSymbols {m : Type → Type} [Monad m] (host : Host m) :
    Choice Path → m (Except RunFault (SymbolTable × List Diagnostic))
  | .unsaid => pure (.ok (OrderedMap.empty, []))
  | .blank => pure (.error (.blankOption .symbols))
  | .said path => do
    match ← pathExists host path with
    | .error fault => pure (.error (.file fault))
    | .ok false => pure (.ok (OrderedMap.empty, []))
    | .ok true => readSymbols host path

/-- The path of the listing: next to the input unless the arguments name another one. -/
def Settings.listingPath (settings : Settings) : Path :=
  match settings.listing with
  | .said path => path
  | .unsaid | .blank => settings.input.withSuffix ".ir.txt"

def writeResult {m : Type → Type} [Monad m] (host : Host m) (what : String) (path : Path)
    (text : String) : m (Except RunFault String) := do
  match ← writeFile host path text with
  | .ok _ => pure (.ok (what ++ " written to " ++ path.text))
  | .error fault => pure (.error (.file fault))

def writeListing {m : Type → Type} [Monad m] (host : Host m) (settings : Settings)
    (symbols : SymbolTable) (program : Program) : m (Except RunFault String) :=
  match Listing.render symbols program with
  | .error fault => pure (.error (.output fault))
  | .ok listing => writeResult host "ir" settings.listingPath listing

def writeDocument {m : Type → Type} [Monad m] (host : Host m) (settings : Settings)
    (program : Program) : m (Except RunFault (List String)) :=
  match settings.json, Export.program program with
  | .unsaid, _ => pure (.ok [])
  | _, .error fault => pure (.error (.output fault))
  | .blank, .ok _ => pure (.error (.blankOption .json))
  | .said path, .ok document => do
    match ← writeResult host "json" path document.text with
    | .ok line => pure (.ok [line])
    | .error fault => pure (.error fault)

def writeResults {m : Type → Type} [Monad m] (host : Host m) (settings : Settings)
    (symbols : SymbolTable) (program : Program) : m (List String × Ending) := do
  match ← writeListing host settings symbols program with
  | .error fault => pure ([], .broken fault)
  | .ok line =>
    match ← writeDocument host settings program with
    | .error fault => pure ([line], .broken fault)
    | .ok lines => pure (line :: lines, .finished)

def timeLine (elapsed : String) : String := "total execution time: " ++ elapsed ++ "s"

def disassembleAs (encoding : Encoding) (blob : Blob) : Except Ending Program × List Diagnostic :=
  let (result, log) := disassembleLogged blob encoding
  (result.mapError .undecodable, log.toList)

/-- Disassembles a file, by default in Shift JIS.  When the encoding was left blank, reading stops
at the first text that has to be decoded. -/
def disassembleChosen (encoding : Choice Encoding) (blob : Blob) :
    Except Ending Program × List Diagnostic :=
  match encoding with
  | .unsaid => disassembleAs .shiftJis blob
  | .said encoding => disassembleAs encoding blob
  | .blank =>
    match Scenario.readPreamble blob with
    | .error fault => (.error (.undecodable (.container fault)), [])
    | .ok _ => (.error (.broken (.blankOption .encoding)), [])

def process {m : Type → Type} [Monad m] (host : Host m) (settings : Settings)
    (symbols : SymbolTable) (earlier : List Diagnostic) : m Report := do
  match ← host.read settings.input with
  | .error fault => pure { diagnostics := earlier, ending := .broken (.file fault) }
  | .ok blob =>
    let (result, log) := disassembleChosen settings.encoding blob
    let diagnostics := earlier ++ log
    match result with
    | .error ending => pure { diagnostics, ending }
    | .ok program =>
      let (lines, ending) ← writeResults host settings symbols program
      match ending with
      | .finished =>
        let elapsed ← host.elapsed
        pure { output := lines ++ [timeLine elapsed], diagnostics, ending }
      | _ => pure { output := lines, diagnostics, ending }

def Report.atLevel (report : Report) (level : Level) : Report :=
  { report with
    diagnostics := report.diagnostics.filter fun d => level.rank ≤ d.level.rank }

def runSettings {m : Type → Type} [Monad m] (host : Host m) (settings : Settings) :
    m Report := do
  match ← pathExists host settings.input with
  | .error fault => pure { ending := .broken (.file fault) }
  | .ok false => pure { ending := .missingInput settings.input }
  | .ok true =>
    match ← loadSymbols host settings.symbols with
    | .error fault => pure { ending := .broken fault }
    | .ok (symbols, earlier) => process host settings symbols earlier

/-- Runs with settings that were read already.  Warnings and errors are reported by default. -/
def runAtLevel {m : Type → Type} [Monad m] (host : Host m) (settings : Settings) :
    m Report :=
  match settings.level with
  | .blank => pure { ending := .broken (.blankOption .level) }
  | .unsaid => return (← runSettings host settings).atLevel .warning
  | .said level => return (← runSettings host settings).atLevel level

def run {m : Type → Type} [Monad m] (host : Host m) (arguments : List String) : m Report :=
  match parseArguments arguments with
  | .error fault => pure { ending := .usage fault }
  | .ok .help => pure { ending := .help }
  | .ok (.run settings) => runAtLevel host settings

end SceneCode.CommandLine
