import Carryover.Command.Help
import Carryover.Command.Report
import Carryover.Settings

/-!
# The program

Reads the settings, the words of the command line and the file that they name, and prints what
comes of them. No class is declared here, so paths name what the catalogue holds.
-/

namespace Carryover

/-- Why a file could not be read. -/
def fileFaultOf : IO.Error → FileFault
  | .inappropriateType .. => .directory
  | _ => .absent

/-- The bytes of the file that a command line names. -/
def readNamedFile (words : List String) : IO (Except FileFault (List UInt8)) :=
  match Command.Request.read words with
  | .ok (.decode file _ _) =>
    tryCatch
      (do
        let bytes ← IO.FS.readBinFile (Command.shorten file)
        return .ok bytes.toList)
      fun e => return .error (fileFaultOf e)
  | _ => return .error .absent

/-- Prints how a command line ends; the status is 0 for an answer, 1 for a failure and 2 for a
command line that is not understood. -/
def printEnding : Command.Ending → IO UInt32
  | .replied (.result text) => do
    IO.println text
    return 0
  | .replied (.remark text) => do
    IO.eprintln text
    return 0
  | .failed f | .aborted f => do
    IO.eprintln ("Error: " ++ f.message)
    return 1
  | .refused ⟨verb, .help⟩ => do
    IO.println (Command.help verb)
    return 0
  | .refused ⟨verb, .misuse⟩ => do
    IO.eprintln (Command.usage verb)
    return 2

/-- Carries out a command line. -/
def runProgram (settings : Settings) (words : List String) : IO UInt32 := do
  let content ← readNamedFile words
  let start := { Session.start {} with caching := settings.caching }
  let (ending, session) := Command.perform { classes := {} } (fun _ => content) words start
  for entry in session.log do
    if settings.shows entry.isWarning then IO.eprintln entry.message
  printEnding ending

end Carryover

/-- The program. -/
def main (words : List String) : IO UInt32 := do
  let caching ← IO.getEnv Carryover.Settings.cachingName
  let logLevel ← IO.getEnv Carryover.Settings.logLevelName
  let lookup (name : String) : Option String :=
    if name = Carryover.Settings.cachingName then caching else logLevel
  match Carryover.Settings.read lookup with
  | .error f =>
    IO.eprintln f.message
    return 1
  | .ok settings => Carryover.runProgram settings words
