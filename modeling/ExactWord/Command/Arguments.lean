import ExactWord.Interface
import ExactWord.Text.Visible

namespace ExactWord.Command

inductive Flag where
  | noHelpers
  | verbose
  | help
  | version
deriving DecidableEq, Repr

inductive Valued where
  | output
  | guard
deriving DecidableEq, Repr

inductive OptionName where
  | flag (name : Flag)
  | valued (name : Valued)
deriving DecidableEq, Repr

namespace Flag

def long : Flag → String
  | .noHelpers => "no-compat"
  | .verbose => "verbose"
  | .help => "help"
  | .version => "version"

def short? : Flag → Option Char
  | .noHelpers => none
  | .verbose => some 'v'
  | .help => some 'h'
  | .version => some 'V'

def usage (f : Flag) : String := "--" ++ f.long

end Flag

namespace Valued

def long : Valued → String
  | .output => "output"
  | .guard => "guard"

def short : Valued → Char
  | .output => 'o'
  | .guard => 'g'

def letter (v : Valued) : String := String.singleton v.short

def usage : Valued → String
  | .output => "--output <FILE>"
  | .guard => "--guard <NAME>"

end Valued

namespace OptionName

def all : List OptionName :=
  [.valued .output, .valued .guard, .flag .noHelpers, .flag .verbose, .flag .help, .flag .version]

def long : OptionName → String
  | .flag f => f.long
  | .valued v => v.long

def short? : OptionName → Option Char
  | .flag f => f.short?
  | .valued v => some v.short

def usage : OptionName → String
  | .flag f => f.usage
  | .valued v => v.usage

def ofLong? (name : String) : Option OptionName := all.find? (·.long == name)

def ofShort? (letter : Char) : Option OptionName := all.find? (·.short? == some letter)

end OptionName

inductive UsageError where
  | unexpectedArgument (argument : String)
  | unexpectedValue (value : String) (option : Flag)
  | valueRequired (option : Valued)
  | repeated (option : OptionName)
deriving DecidableEq, Repr

/-- Says what is wrong. Of a text that the user gave, only the visible part is shown. -/
def UsageError.message : UsageError → String
  | .unexpectedArgument argument => "error: unexpected argument '" ++ Text.visible argument ++ "' found"
  | .unexpectedValue value option =>
    "error: unexpected value '" ++ Text.visible value ++ "' for '" ++ option.usage ++ "' found; no more were expected"
  | .valueRequired option => "error: a value is required for '" ++ option.usage ++ "' but none was supplied"
  | .repeated option => "error: the argument '" ++ option.usage ++ "' cannot be used multiple times"

inductive Stop where
  | help
  | version
  | usage (error : UsageError)
deriving DecidableEq, Repr

structure Options where
  output : Option String
  guard : String
  helpers : Bool
  verbose : Bool
deriving DecidableEq, Repr

structure Draft where
  output : Option String
  guard : Option String
  noHelpers : Bool
  verbose : Bool
deriving DecidableEq, Repr

namespace Draft

def blank : Draft := ⟨none, none, false, false⟩

/-- Gives an option its value. A file name is not empty. -/
def set (d : Draft) (value : String) : Valued → Except Stop Draft
  | .output =>
    if d.output.isSome then .error (.usage (.repeated (.valued .output)))
    else if value = "" then .error (.usage (.valueRequired .output))
    else .ok { d with output := some value }
  | .guard =>
    if d.guard.isSome then .error (.usage (.repeated (.valued .guard)))
    else .ok { d with guard := some value }

def raise (d : Draft) : Flag → Except Stop Draft
  | .noHelpers =>
    if d.noHelpers then .error (.usage (.repeated (.flag .noHelpers))) else .ok { d with noHelpers := true }
  | .verbose =>
    if d.verbose then .error (.usage (.repeated (.flag .verbose))) else .ok { d with verbose := true }
  | .help => .error .help
  | .version => .error .version

def options (d : Draft) : Options :=
  ⟨d.output, d.guard.getD IncludeGuard.standardName, !d.noHelpers, d.verbose⟩

end Draft

/-- An option whose value stands apart, and that value once it has been read. It is settled when the next option is
read or when the list ends, so that an argument that is no option at all is reported first. -/
structure Pending where
  option : Valued
  value : Option String
deriving DecidableEq, Repr

structure Reading where
  draft : Draft
  pending : Option Pending
  optionsEnded : Bool
deriving DecidableEq, Repr

namespace Reading

def start : Reading := ⟨.blank, none, false⟩

def unexpected (argument : String) : Except Stop Reading := .error (.usage (.unexpectedArgument argument))

def settle (r : Reading) : Except Stop Reading :=
  match r.pending with
  | none => .ok r
  | some ⟨option, none⟩ => .error (.usage (.valueRequired option))
  | some ⟨option, some value⟩ => do
    let draft ← r.draft.set value option
    return { r with draft := draft, pending := none }

def flag (r : Reading) (f : Flag) : Except Stop Reading := do
  let settled ← r.settle
  let draft ← settled.draft.raise f
  return { settled with draft := draft }

def attach (r : Reading) (option : Valued) (value : List Char) : Except Stop Reading := do
  let settled ← r.settle
  let draft ← settled.draft.set (String.ofList value) option
  return { settled with draft := draft }

def await (r : Reading) (option : Valued) : Except Stop Reading := do
  let settled ← r.settle
  return { settled with pending := some ⟨option, none⟩ }

def long (r : Reading) (body : List Char) : Except Stop Reading :=
  let name := String.ofList (body.takeWhile (· != '='))
  match OptionName.ofLong? name, body.dropWhile (· != '=') with
  | none, _ => unexpected ("--" ++ name)
  | some (.flag f), [] => r.flag f
  | some (.flag f), _ :: value => .error (.usage (.unexpectedValue (String.ofList value) f))
  | some (.valued v), [] => r.await v
  | some (.valued v), _ :: value => r.attach v value

def cluster (r : Reading) : List Char → Except Stop Reading
  | [] => .ok r
  | letter :: rest =>
    match OptionName.ofShort? letter with
    | none => unexpected ("-" ++ String.singleton letter)
    | some (.flag f) => do
      let next ← r.flag f
      next.cluster rest
    | some (.valued v) =>
      match rest with
      | [] => r.await v
      | '=' :: value => r.attach v value
      | value => r.attach v value

def plain (r : Reading) (argument : String) : Except Stop Reading :=
  match r.pending with
  | some ⟨option, none⟩ => .ok { r with pending := some ⟨option, some argument⟩ }
  | _ => unexpected argument

def argument (r : Reading) (argument : String) : Except Stop Reading :=
  if r.optionsEnded then
    unexpected argument
  else
    match argument.toList with
    | ['-', '-'] => .ok { r with optionsEnded := true }
    | '-' :: '-' :: body => r.long body
    | '-' :: letter :: rest => r.cluster (letter :: rest)
    | _ => r.plain argument

end Reading

def Options.parse (arguments : List String) : Except Stop Options := do
  let last ← arguments.foldlM Reading.argument Reading.start
  let settled ← last.settle
  return settled.draft.options

inductive ValueForm where
  | longApart
  | longEquals
  | shortApart
  | shortJoined
  | shortEquals
deriving DecidableEq, Repr

def Valued.spell (v : Valued) (value : String) : ValueForm → List String
  | .longApart => ["--" ++ v.long, value]
  | .longEquals => ["--" ++ v.long ++ "=" ++ value]
  | .shortApart => ["-" ++ v.letter, value]
  | .shortJoined => ["-" ++ v.letter ++ value]
  | .shortEquals => ["-" ++ v.letter ++ "=" ++ value]

inductive Written where
  | valued (option : Valued) (value : String) (form : ValueForm)
  | noHelpers
  | verbose (short : Bool)
deriving DecidableEq, Repr

namespace Written

def name : Written → OptionName
  | .valued option _ _ => .valued option
  | .noHelpers => .flag .noHelpers
  | .verbose _ => .flag .verbose

def arguments : Written → List String
  | .valued option value form => option.spell value form
  | .noHelpers => ["--no-compat"]
  | .verbose true => ["-v"]
  | .verbose false => ["--verbose"]

end Written

end ExactWord.Command
