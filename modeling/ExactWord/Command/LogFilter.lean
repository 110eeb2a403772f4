import ExactWord.Pattern
import ExactWord.Text

namespace ExactWord.Command

inductive LogLevel where
  | off
  | error
  | warn
  | info
  | debug
  | trace
deriving DecidableEq, Repr

namespace LogLevel

def rank : LogLevel → Nat
  | .off => 0
  | .error => 1
  | .warn => 2
  | .info => 3
  | .debug => 4
  | .trace => 5

def all : List LogLevel := [.off, .error, .warn, .info, .debug, .trace]

def name : LogLevel → String
  | .off => "off"
  | .error => "error"
  | .warn => "warn"
  | .info => "info"
  | .debug => "debug"
  | .trace => "trace"

def ofNumeral? (text : List Char) : Option LogLevel :=
  let digits := match text with
    | '+' :: rest => rest
    | _ => text
  if digits.isEmpty || !digits.all Char.isDigit then
    none
  else
    all.find? (·.rank == Nat.ofDigitChars 10 digits 0)

def ofChars? (text : List Char) : Option LogLevel :=
  match ofNumeral? text with
  | some level => some level
  | none => all.find? (·.name.toList == text.map Char.toLower)

end LogLevel

structure Topic where
  origin : String
  fields : List String
deriving DecidableEq, Repr

inductive Condition where
  | always
  | hasField (name : String)
  | inSpan
deriving DecidableEq, Repr

namespace Condition

/-- Whether an event outside of all spans meets a condition. -/
def holds (fields : List String) : Condition → Bool
  | .always => true
  | .hasField name => fields.contains name
  | .inSpan => false

def fieldName : Condition → String
  | .hasField name => name
  | _ => ""

end Condition

structure Directive where
  target : Option String
  condition : Condition
  level : LogLevel
deriving DecidableEq, Repr

namespace Directive

def covers (topic : Topic) (d : Directive) : Bool :=
  d.condition.holds topic.fields &&
    match d.target with
    | none => true
    | some target => target.toList.isPrefixOf topic.origin.toList

def specificity (d : Directive) : Nat :=
  match d.target with
  | none => 0
  | some target => target.length + 1

def lessSpecific (d e : Directive) : Bool :=
  d.specificity < e.specificity || d.specificity == e.specificity && d.condition.fieldName < e.condition.fieldName

def startsTarget (c : Char) : Bool := c == '-' || c == ':' || c == '_' || Text.alphanumeric c

def dropSign : List Char → List Char
  | '+' :: rest => rest
  | '-' :: rest => rest
  | text => text

def isExponent : List Char → Bool
  | [] => true
  | c :: rest => (c == 'e' || c == 'E') && !(dropSign rest).isEmpty && (dropSign rest).all Char.isDigit

def isNumeral (text : List Char) : Bool :=
  let whole := text.takeWhile Char.isDigit
  match text.drop whole.length with
  | '.' :: rest =>
    let fraction := rest.takeWhile Char.isDigit
    !(whole.isEmpty && fraction.isEmpty) && isExponent (rest.drop fraction.length)
  | rest => !whole.isEmpty && isExponent rest

def isNumber (text : List Char) : Bool :=
  let body := dropSign text
  isNumeral body || ["inf", "infinity", "nan"].contains (String.ofList (body.map Char.toLower))

/-- Reads a field: a name, or a name and the number or pattern that its value matches. Values are known inside spans
only. -/
def field? (text : List Char) : Option Condition :=
  match Text.pieces '=' text with
  | [] => none
  | [name] => some (.hasField (String.ofList name))
  | _ :: value :: _ => if isNumber value || Pattern.wellFormed value then some .inSpan else none

def ofWord (text : List Char) : Directive :=
  match LogLevel.ofChars? text with
  | some level => ⟨none, .always, level⟩
  | none => ⟨some (String.ofList text), .always, .trace⟩

def level? (text : List Char) : Option LogLevel := if text.isEmpty then some .trace else LogLevel.ofChars? text

def ending? (text : List Char) (target : Option String) (condition : Condition) (start : Nat) :
    List Char → Option Directive
  | [] => some ⟨target, condition, .trace⟩
  | '=' :: _ => do
    let level ← Text.cutFrom? (start + 1) text
    return ⟨target, condition, ← level? level⟩
  | _ => none

def braces? (text : List Char) (target : Option String) (named : Bool) (start : Nat) (body : List Char) :
    Option Directive := do
  let inside := body.takeWhile (· != '\x7d')
  let stop := start + Text.byteCount inside
  match body.drop inside.length with
  | '\x7d' :: ']' :: rest =>
    if inside.isEmpty then
      none
    else
      let condition ← field? (← Text.cut? start stop text)
      ending? text target (if named then .inSpan else condition) (stop + 2) rest
  | _ => none

def brackets? (text : List Char) (target : Option String) (start : Nat) (body : List Char) : Option Directive := do
  let inside := body.takeWhile fun c => c != ']' && c != '\x7b'
  let stop := start + Text.byteCount inside
  let name ← Text.cut? start stop text
  match body.drop inside.length with
  | ']' :: rest => ending? text target .inSpan (stop + 1) rest
  | '\x7b' :: rest => braces? text target (!name.isEmpty) (stop + 1) rest
  | _ => none

/-- Reads one directive. Blanks around it do not count when its parts are measured, but the parts are cut out of the
text with its blanks. -/
def ofChars? (text : List Char) : Option Directive :=
  match Text.trim text with
  | [] => none
  | '[' :: body => brackets? text none 1 body
  | c :: body =>
    if !startsTarget c then
      none
    else
      let head := (c :: body).takeWhile fun c => c != '=' && c != '['
      let stop := Text.byteCount head
      match (c :: body).drop head.length with
      | [] => some (ofWord text)
      | '=' :: rest => do
        let target ← Text.cut? 0 stop text
        ending? text (some (String.ofList target)) .always stop ('=' :: rest)
      | _ :: rest => do
        let target ← Text.cut? 0 stop text
        brackets? text (some (String.ofList target)) (stop + 1) rest

end Directive

structure LogFilter where
  directives : List Directive
deriving DecidableEq, Repr

namespace LogFilter

/-- Reads directives between commas; empty ones are skipped, and an unreadable one spoils the whole. -/
def ofText? (text : String) : Option LogFilter := do
  let parts := (Text.pieces ',' text.toList).filter fun part => !part.isEmpty
  return ⟨← parts.mapM Directive.ofChars?⟩

def uniform (level : LogLevel) : LogFilter := ⟨[⟨none, .always, level⟩]⟩

def ofSetting (setting : Option String) (verbose : Bool) : LogFilter :=
  match setting.bind ofText? with
  | some filter => filter
  | none => uniform (if verbose then .debug else .warn)

/-- The more specific of two directives, the later one if they are equally specific. -/
def moreSpecific (best : Option Directive) (d : Directive) : Option Directive :=
  match best with
  | none => some d
  | some b => if d.lessSpecific b then some b else some d

def deciding (f : LogFilter) (topic : Topic) : Option Directive :=
  (f.directives.filter (·.covers topic)).foldl moreSpecific none

def allows (f : LogFilter) (topic : Topic) (level : LogLevel) : Bool :=
  match f.deciding topic with
  | none => false
  | some d => level.rank ≤ d.level.rank

end LogFilter

end ExactWord.Command
