import ExactWord.Command.Arguments
import ExactWord.Command.LogFilter
import ExactWord.Command.Tree

namespace ExactWord.Command

def helpText : String :=
  Text.unlines
    ["Write the C header for the ckd checked-arithmetic exports",
      "",
      "Usage: ckd-header [OPTIONS]",
      "",
      "Options:",
      "  -o, --output <FILE>  File to write the header to. Writes to stdout when omitted",
      "  -g, --guard <NAME>   Include guard macro name [default: CKD_CHECKED_H]",
      "      --no-compat      Leave out the unsigned-to-signed and legacy 32-bit helpers",
      "  -v, --verbose        Log at debug level unless RUST_LOG says otherwise",
      "  -h, --help           Print help",
      "  -V, --version        Print version"]

def versionText : String := Text.unlines ["ckd-header 0.1.0"]

inductive Event where
  | rendered (interface : Interface)
  | wrote (path : String) (bytes : Nat)
deriving DecidableEq

namespace Event

def topic : Event → Topic
  | .rendered _ => ⟨"ckd_ffi::header", ["message", "guard", "include_compat", "entries"]⟩
  | .wrote _ _ => ⟨"ckd_header", ["message", "path", "bytes"]⟩

def level : Event → LogLevel
  | .rendered _ => .debug
  | .wrote _ _ => .info

def text : Event → String
  | .rendered i =>
    "DEBUG rendering C header guard=\"" ++ i.guard.name ++ "\" include_compat=" ++
      (if i.helpers then "true" else "false") ++ " entries=" ++ Decimal.text Routine.all.length
  | .wrote path bytes => "INFO wrote header path=" ++ path ++ " bytes=" ++ Decimal.text bytes

end Event

inductive Failure where
  | usage (error : UsageError)
  | guard (error : GuardError)
  | create (parent : String) (cause : FileError)
  | write (path : String) (cause : FileError)
deriving DecidableEq, Repr

namespace Failure

def caused (context cause : String) : String := "Error: " ++ context ++ "\n\nCaused by:\n    " ++ cause

def createText (parent cause : String) : String := caused ("failed to create " ++ parent) cause

def writeText (path cause : String) : String := caused ("failed to write header to " ++ path) cause

def text : Failure → String
  | .usage error => error.message
  | .guard error => "Error: " ++ error.message
  | .create parent cause => createText parent cause.message
  | .write path cause => writeText path cause.message

def exitCode : Failure → Nat
  | .usage _ => 2
  | _ => 1

end Failure

inductive Diagnostic where
  | event (event : Event)
  | failure (failure : Failure)
deriving DecidableEq

def Diagnostic.text : Diagnostic → String
  | .event e => e.text
  | .failure f => f.text

def LogFilter.log (f : LogFilter) (e : Event) : List Diagnostic :=
  if f.allows e.topic e.level then [.event e] else []

inductive Plan where
  | fail (failure : Failure)
  | print (text : String) (log : List Diagnostic)
  | save (path : String) (text : String) (before after : List Diagnostic)

namespace Plan

def ofOptions (filter : LogFilter) (o : Options) : Plan :=
  match Interface.ofName o.guard o.helpers with
  | .error error => .fail (.guard error)
  | .ok i =>
    match o.output with
    | none => .print i.text (filter.log (.rendered i))
    | some path =>
      .save path i.text (filter.log (.rendered i)) (filter.log (.wrote path i.text.utf8ByteSize))

def make (setting : Option String) (arguments : List String) : Plan :=
  match Options.parse arguments with
  | .error .help => .print helpText []
  | .error .version => .print versionText []
  | .error (.usage error) => .fail (.usage error)
  | .ok o => ofOptions (.ofSetting setting o.verbose) o

end Plan

structure Outcome where
  exitCode : Nat
  stdout : String
  diagnostics : List Diagnostic
  tree : Tree
deriving DecidableEq

def Outcome.stderr (o : Outcome) : String := Text.unlines (o.diagnostics.map Diagnostic.text)

namespace Plan

def saveIn (t : Tree) (path text : String) : Except Failure Unit × Tree :=
  let target := Path.ofText path
  match t.makeDirectories target.parents with
  | (.error cause, left) => (.error (.create target.parentText cause), left)
  | (.ok (), left) =>
    match left.writeFile target text with
    | .error cause => (.error (.write path cause), left)
    | .ok written => (.ok (), written)

def perform (t : Tree) : Plan → Outcome
  | .fail failure => ⟨failure.exitCode, "", [.failure failure], t⟩
  | .print text log => ⟨0, text, log, t⟩
  | .save path text before after =>
    match saveIn t path text with
    | (.error failure, left) => ⟨failure.exitCode, "", before ++ [.failure failure], left⟩
    | (.ok (), left) => ⟨0, "", before ++ after, left⟩

end Plan

def run (setting : Option String) (arguments : List String) (t : Tree) : Outcome :=
  (Plan.make setting arguments).perform t

end ExactWord.Command
