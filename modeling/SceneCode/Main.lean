import SceneCode.CommandLine.Run

/-!
# The program

Runs the command line on the files of the computer.  Diagnostics and messages go to the standard
error stream.
-/

set_option autoImplicit false

namespace SceneCode.Main

open SceneCode.CommandLine

/-- The code of the operating system for a file that stands where a directory is needed. -/
def notDirectoryCode : UInt32 := 20

def fileFault : IO.Error → FileFault
  | .noFileOrDirectory .. => .notFound
  | .inappropriateType _ code _ => if code = notDirectoryCode then .notDirectory else .isDirectory
  | failure => .other (toString failure)

def guarded {α : Type} (action : IO α) : IO (Except FileFault α) := do
  try
    return .ok (← action)
  catch failure =>
    return .error (fileFault failure)

def seconds (milliseconds : Nat) : String :=
  let hundredths := (milliseconds + 5) / 10
  let rest := hundredths % 100
  toString (hundredths / 100) ++ "." ++ (if rest < 10 then "0" else "") ++ toString rest

def host (started : Nat) : Host IO where
  pathExists path := do
    match ← guarded (IO.FS.Handle.mk path.text .read) with
    | .error .notFound | .error .notDirectory => return .ok false
    | .error fault => return .error fault
    | .ok _ => return .ok true
  read path := guarded do
    return (← IO.FS.readBinFile path.text).data
  write path text := guarded (IO.FS.writeFile path.text text)
  elapsed := do
    return seconds ((← IO.monoMsNow) - started)

def helpLines : List String :=
  ["usage: " ++ Ending.programName ++ " [-h] [--nls NLS] [--ir-out IR_OUT] [--json-out JSON_OUT]"
     ++ " [--symbols SYMBOLS] [--log-level LEVEL] input",
   "",
   "  input        Scenario (.hcb) file to disassemble",
   "  --nls        Text encoding of scenario strings: shift_jis, gbk or utf8",
   "  --ir-out     Override the default <input>.ir.txt output path",
   "  --json-out   Additionally write the routine table as JSON",
   "  --symbols    JSON file mapping routine addresses to names",
   "  --log-level  Verbosity of diagnostic messages written to stderr"]

def errorLines (report : Report) : List String :=
  report.diagnostics.map Diagnostic.line
    ++ report.ending.usageLine?.toList
    ++ report.ending.stopMessage?.toList
    ++ match report.ending with
      | .broken fault => ["error: " ++ fault.message]
      | _ => []

end SceneCode.Main

def main (arguments : List String) : IO UInt32 := do
  let report ← SceneCode.CommandLine.run (SceneCode.Main.host (← IO.monoMsNow)) arguments
  for line in SceneCode.Main.errorLines report do
    IO.eprintln line
  match report.ending with
  | .help => SceneCode.Main.helpLines.forM fun line => IO.println line
  | _ => report.output.forM fun line => IO.println line
  return report.ending.exitCode.toUInt32
