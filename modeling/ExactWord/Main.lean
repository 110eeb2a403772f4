import ExactWord.Command.Run
import Std.Time.DateTime.Timestamp
import Std.Time.Format

namespace ExactWord.Command.Host

/-- The cause of a failed call, worded as `FileError.message` words it. -/
def causeText : IO.Error → String
  | .alreadyExists _ code details | .invalidArgument _ code details | .permissionDenied _ code details
  | .resourceExhausted _ code details | .inappropriateType _ code details | .noSuchThing _ code details
  | .noFileOrDirectory _ code details | .interrupted _ code details | .otherError code details
  | .resourceBusy code details | .resourceVanished code details | .unsupportedOperation code details
  | .hardwareFault code details | .unsatisfiedConstraints code details | .illegalOperation code details
  | .protocolError code details | .timeExpired code details => details ++ " (os error " ++ toString code ++ ")"
  | .unexpectedEof => "unexpected end of file"
  | .userError message => message

/-- The system finds that `d/.` already exists exactly when `d` is a directory. -/
def isDirectory (path : String) : IO Bool := do
  try
    IO.FS.createDir (path ++ "/.")
    return false
  catch
    | .alreadyExists .. => return true
    | _ => return false

def ensureDirectory (path : String) : IO Unit := do
  try
    IO.FS.createDir path
  catch cause =>
    if !(← isDirectory path) then throw cause

def makeDirectories : List Path → IO Unit
  | [] => return
  | p :: outer => do
    try
      ensureDirectory p.text
    catch
      | .noFileOrDirectory .. =>
        makeDirectories outer
        ensureDirectory p.text
      | cause => throw cause

def printDiagnostic : Diagnostic → IO Unit
  | .event e => do
    let now ← Std.Time.Timestamp.now
    let time := (Std.Time.DateTime.ofTimestamp now Std.Time.TimeZone.ZoneRules.UTC).format
      "uuuu-MM-dd'T'HH:mm:ss.SSSSSS'Z'"
    let margin := if e.level.name.length < 5 then "  " else " "
    IO.eprintln (time ++ margin ++ e.text)
  | .failure f => IO.eprintln f.text

def save (path text : String) : IO (Option String) := do
  let target := Path.ofText path
  try
    makeDirectories target.parents
  catch cause =>
    return some (Failure.createText target.parentText (causeText cause))
  try
    IO.FS.writeFile path text
  catch cause =>
    return some (Failure.writeText path (causeText cause))
  return none

def perform : Plan → IO UInt32
  | .fail failure => do
    printDiagnostic (.failure failure)
    return failure.exitCode.toUInt32
  | .print text log => do
    log.forM printDiagnostic
    IO.print text
    return 0
  | .save path text before after => do
    before.forM printDiagnostic
    match ← save path text with
    | some message =>
      IO.eprintln message
      return 1
    | none =>
      after.forM printDiagnostic
      return 0

end ExactWord.Command.Host

def main (arguments : List String) : IO UInt32 := do
  let setting ← IO.getEnv "RUST_LOG"
  ExactWord.Command.Host.perform (ExactWord.Command.Plan.make setting arguments)
